import MarkupQuery.Proofs.Nodes.Direction
import MarkupQuery.Proofs.Nodes.Faults

/-! What operations on nodes make of the value that they are given. Most ask only which nodes it
admits, so values that admit the same nodes can stand for each other. -/

namespace MarkupQuery

open Pseudo

section congruence

variable {α β : Type} {as : List α}

lemma keep_congr {test test' : α → Except Fault Bool} (h : ∀ a ∈ as, test a = test' a) :
    keep test as = keep test' as := by
  induction as with
  | nil => rfl
  | cons a as ih =>
    obtain ⟨ha, has⟩ := List.forall_mem_cons.mp h
    rw [keep, keep, ha, ih has]

lemma firstKept?_congr {test test' : α → Except Fault Bool} (h : ∀ a ∈ as, test a = test' a) :
    firstKept? test as = firstKept? test' as := by
  induction as with
  | nil => rfl
  | cons a as ih =>
    obtain ⟨ha, has⟩ := List.forall_mem_cons.mp h
    rw [firstKept?, firstKept?, ha, ih has]

lemma collect_congr {step step' : α → Except Fault (Option β)} (h : ∀ a ∈ as, step a = step' a) :
    collect step as = collect step' as := by
  induction as with
  | nil => rfl
  | cons a as ih =>
    obtain ⟨ha, has⟩ := List.forall_mem_cons.mp h
    rw [collect, collect, ha, ih has]

end congruence

variable {lib : Library} {home : Nat} {s t : NodeSet} {v w : Value} {step : Node → List Node}
  {n x : Node} {op : Operation}

namespace Value

def IsNodes (lib : Library) : Value → Prop
  | set _ | nodes _ | document _ => True
  | node n => lib.isTag n = true
  | _ => False

lemma IsNodes.ne_none (hv : v.IsNodes lib) : v ≠ .none := by
  rintro rfl
  exact hv

lemma IsNodes.cssText?_eq (hv : v.IsNodes lib) : v.cssText? lib = .none := by
  cases v with
  | node n => exact if_pos hv
  | set | nodes | document => rfl
  | _ => exact hv.elim

lemma IsNodes.admits_eq (hv : v.IsNodes lib) (n : Node) :
    v.admits lib home n = (v.nodeSet lib home).map fun s => s.nodes.contains n := by
  have hcss := hv.cssText?_eq
  cases v with
  | node | set | nodes | document => simp only [admits, hcss]
  | _ => exact hv.elim

lemma IsNodes.query_eq (hv : v.IsNodes lib) (context : Value) :
    v.query lib home context = v.nodeSet lib home := by
  cases v with
  | node | set | nodes | document => rfl
  | _ => exact hv.elim

end Value

namespace NodeSet

def SameTest (lib : Library) (s : NodeSet) (v w : Value) : Prop :=
  ∀ m, (∃ n ∈ s.nodes, m.document = n.document) →
    v.admits lib s.home m = w.admits lib s.home m

lemma SameTest.of_finds (h : s.SameTest lib v w) (hstep : lib.Finds step) :
    ∀ m ∈ firsts (s.nodes.flatMap step), v.admits lib s.home m = w.admits lib s.home m := by
  intro m hm
  obtain ⟨n, hn, hm⟩ := List.mem_flatMap.mp (mem_firsts.mp hm)
  exact h m ⟨n, hn, (hstep n m hm).1⟩

lemma derive_congr (h : s.SameTest lib v w) (hstep : lib.Finds step) :
    s.derive lib step v = s.derive lib step w := by
  rw [derive, derive, keep_congr (h.of_finds hstep)]

lemma deriveReversed_congr (h : s.SameTest lib v w) (hstep : lib.Finds step) :
    s.deriveReversed lib step v = s.deriveReversed lib step w := by
  rw [deriveReversed, deriveReversed, keep_congr (h.of_finds hstep)]

lemma closest_congr (hv : v ≠ .none) (hw : w ≠ .none) (h : s.SameTest lib v w) :
    s.closest lib v = s.closest lib w := by
  have hclimb : ∀ n ∈ s.nodes, firstKept? (v.admits lib s.home) (lib.inclusiveAncestors n) =
      firstKept? (w.admits lib s.home) (lib.inclusiveAncestors n) := fun n hn =>
    firstKept?_congr fun m hm => h m ⟨n, hn, (Library.finds_inclusiveAncestors n m hm).1⟩
  rw [closest_of_given hv, closest_of_given hw, collect_congr hclimb]

lemma filter_congr (hv : v ≠ .none) (hw : w ≠ .none) (h : s.SameTest lib v w) :
    s.filter lib v = s.filter lib w := by
  rw [filter_of_given hv, filter_of_given hw, keep_congr fun n hn => h n ⟨n, hn, rfl⟩]

lemma exclude_congr (hv : v ≠ .none) (hw : w ≠ .none) (h : s.SameTest lib v w) :
    s.exclude lib v = s.exclude lib w := by
  have htest : ∀ n ∈ s.nodes,
      (v.admits lib s.home n).map (!·) = (w.admits lib s.home n).map (!·) := fun n hn => by
    rw [h n ⟨n, hn, rfl⟩]
  rw [exclude_of_given hv, exclude_of_given hw, keep_congr htest]

lemma has_of_isNodes (hv : v.IsNodes lib) (ht : v.nodeSet lib s.home = .ok t) : s.has lib v =
    .ok (.ofList s.home (s.nodes.filter fun n => t.nodes.any fun m => n.isAncestorOf m)) := by
  rw [has_of_nodes hv.ne_none hv.cssText?_eq, ht, Except.map]

lemma has_set (lib : Library) (s u : NodeSet) : s.has lib (.set u) =
    .ok (.ofList s.home (s.nodes.filter fun n => u.nodes.any fun m => n.isAncestorOf m)) := by
  have hu : (ofList s.home u.nodes).nodes = u.nodes := firsts_eq_self u.nodup
  have hv : (Value.set u).IsNodes lib := trivial
  rw [has_of_isNodes hv rfl, hu]

lemma add_of_given (hv : v ≠ .none) (context : Value) : s.add lib v context =
    (v.query lib s.home context).map fun t =>
      .ofList s.home (sorted s.home (s.nodes ++ t.nodes)) := by
  cases v
  case none => exact absurd rfl hv
  all_goals rfl

end NodeSet

namespace Pseudo

def Operation.selecting : List Operation :=
  [parent, parents, closest, next, nextAll, prev, prevAll, siblings, children, filter, exclude, has,
    add]

lemma Operation.apply_congr (hop : op ∈ selecting) (hv : v ≠ .none) (hw : w ≠ .none)
    (htest : s.SameTest lib v w) (hhas : op = .has → s.has lib v = s.has lib w)
    (hadd : op = .add → s.add lib v .none = s.add lib w .none) :
    op.apply lib s [v] = op.apply lib s [w] := by
  cases op with
  | parent => exact NodeSet.derive_congr htest Library.finds_parentElement
  | parents => exact NodeSet.deriveReversed_congr htest Library.finds_ancestorElements
  | closest => exact NodeSet.closest_congr hv hw htest
  | next => exact NodeSet.derive_congr htest (Library.finds_followingElements.take 1)
  | nextAll => exact NodeSet.derive_congr htest Library.finds_followingElements
  | prev => exact NodeSet.derive_congr htest (Library.finds_precedingElements.take 1)
  | prevAll => exact NodeSet.deriveReversed_congr htest Library.finds_precedingElements
  | siblings => exact NodeSet.derive_congr htest Library.finds_siblingElements
  | children => exact NodeSet.derive_congr htest Library.finds_childElements
  | filter => exact NodeSet.filter_congr hv hw htest
  | exclude => exact NodeSet.exclude_congr hv hw htest
  | has => exact hhas rfl
  | add => exact hadd rfl
  | contents | find | first | last | eq | slice => simp [selecting] at hop

lemma Operation.faults_apply {p : Fault → Prop} (hop : op ∈ selecting) (hv : v.FailsIn p) :
    FaultsIn p (op.apply lib s [v]) := by
  have hbuiltin : applyBuiltin lib op s [v] = op.apply lib s [v] := by
    cases op <;> first | rfl | simp [selecting] at hop
  rw [← hbuiltin]
  exact faults_applyBuiltin_single hv

lemma Operation.apply_congr_of_nodes (hop : op ∈ selecting) (hv : v.IsNodes lib)
    (hw : w.IsNodes lib) (h : v.nodeSet lib s.home = w.nodeSet lib s.home) :
    op.apply lib s [v] = op.apply lib s [w] := by
  refine apply_congr hop hv.ne_none hw.ne_none (fun m _ => ?_) (fun _ => ?_) fun _ => ?_
  · rw [hv.admits_eq, hw.admits_eq, h]
  · rw [NodeSet.has_of_nodes hv.ne_none hv.cssText?_eq, h,
      NodeSet.has_of_nodes hw.ne_none hw.cssText?_eq]
  · rw [NodeSet.add_of_given hv.ne_none, NodeSet.add_of_given hw.ne_none, hv.query_eq,
      hw.query_eq, h]

lemma Operation.apply_text_node (hop : op ∈ selecting) (hadd : op ≠ .add)
    (hx : lib.isTag x = false) :
    op.apply lib s [.node x] = op.apply lib s [.text (lib.text x)] := by
  have hcss : (Value.node x).cssText? lib = some (lib.text x) := by simp [Value.cssText?, hx]
  have htext : (Value.text (lib.text x)).cssText? lib = some (lib.text x) := rfl
  refine apply_congr hop (by simp) (by simp) (fun m _ => ?_) (fun _ => ?_) fun h => absurd h hadd
  · simp only [Value.admits, hcss, htext]
  · rw [NodeSet.has_of_css hcss, NodeSet.has_of_css htext]

/-- An element or a root is taken for itself, whether it is given alone, in a list or in a set. So
is a node of another kind in a list or a set and in `add`; elsewhere, given alone, its text is read
as a selector. -/
theorem Operation.apply_node (lib : Library) (s : NodeSet) (x : Node) (op : Operation)
    (hop : op ∈ selecting) :
    op.apply lib s [.nodes [some x]] = op.apply lib s [.set (.ofList s.home [x])] ∧
    (lib.isTag x = true ∨ op = .add →
      op.apply lib s [.node x] = op.apply lib s [.set (.ofList s.home [x])]) ∧
    (lib.isTag x = false → op ≠ .add →
      op.apply lib s [.node x] = op.apply lib s [.text (lib.text x)]) := by
  have hlist : (Value.nodes [some x]).IsNodes lib := trivial
  have hset : (Value.set (.ofList s.home [x])).IsNodes lib := trivial
  have hnodes : (Value.set (.ofList s.home [x])).nodeSet lib s.home = .ok (.ofList s.home [x]) :=
    Value.nodeSet_set rfl
  refine ⟨apply_congr_of_nodes hop hlist hset hnodes.symm, fun h => ?_, fun hx hadd =>
    apply_text_node hop hadd hx⟩
  rcases h with hx | rfl
  · exact apply_congr_of_nodes hop (v := .node x) hx hset hnodes.symm
  · change s.add lib (.node x) .none = s.add lib (.set (.ofList s.home [x])) .none
    rw [NodeSet.add_of_given (by simp), NodeSet.add_of_given (by simp), hset.query_eq, hnodes]
    rfl

theorem Operation.apply_node_paragraph :
    let lib : Library := ⟨[⟨.html, [.element "div" [] [.text "p", .element "p" [] []]]⟩]⟩
    let s : NodeSet := .ofList 0 [⟨0, [0]⟩, ⟨0, [0, 0]⟩, ⟨0, [0, 1]⟩]
    (∃ t, Operation.has.apply lib s [.node ⟨0, [0, 1]⟩] = .ok t ∧ t.nodes = [⟨0, [0]⟩] ∧
      Operation.has.apply lib s [.set (.ofList 0 [⟨0, [0, 1]⟩])] = .ok t) ∧
    Operation.filter.apply lib s [.node ⟨0, [0, 0]⟩] =
      Operation.filter.apply lib s [.text "p"] := by
  intro lib s
  obtain ⟨-, hhas, -⟩ := apply_node lib s ⟨0, [0, 1]⟩ .has (by decide)
  obtain ⟨-, -, hfilter⟩ := apply_node lib s ⟨0, [0, 0]⟩ .filter (by decide)
  refine ⟨?_, hfilter rfl nofun⟩
  have hnodes : (Operation.has.apply lib s [.node ⟨0, [0, 1]⟩]).map NodeSet.nodes =
      .ok [⟨0, [0]⟩] := by decide
  obtain ⟨t, ht, hkept⟩ := exists_of_map hnodes
  exact ⟨t, ht, hkept, (hhas (.inl rfl)).symm.trans ht⟩

-- A text node alone is not taken for itself where nodes are chosen by it.
theorem Operation.not_apply_node_eq_set : ¬ ∀ (lib : Library) (s : NodeSet) (x : Node)
    (op : Operation), op ∈ selecting → lib.Holds x → (∀ n ∈ s.nodes, n.document = s.home) →
    x.document = s.home →
    op.apply lib s [.node x] = op.apply lib s [.set (.ofList s.home [x])] := by
  intro h
  let lib : Library := ⟨[⟨.html, [.element "div" [] [.text "p", .element "p" [] []]]⟩]⟩
  let s : NodeSet := .ofList 0 [⟨0, [0, 0]⟩, ⟨0, [0, 1]⟩]
  have hnode : (Operation.filter.apply lib s [.node ⟨0, [0, 0]⟩]).map NodeSet.nodes =
      .ok [⟨0, [0, 1]⟩] := by decide +kernel
  have hset : (Operation.filter.apply lib s [.set (.ofList 0 [⟨0, [0, 0]⟩])]).map NodeSet.nodes =
      .ok [⟨0, [0, 0]⟩] := by decide
  have heq := h lib s ⟨0, [0, 0]⟩ .filter (by decide) rfl (by decide) rfl
  rw [heq] at hnode
  have hlists := Except.ok.inj (hnode.symm.trans hset)
  simp at hlists

end Pseudo

end MarkupQuery
