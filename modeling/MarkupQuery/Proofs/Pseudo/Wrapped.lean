import MarkupQuery.Proofs.Nodes.Restriction
import MarkupQuery.Proofs.Pseudo.Composition

namespace MarkupQuery

open Selector

variable {β : Type} {lib : Library} {home : Nat} {css : String}

lemma Library.isTag_root (h : (lib.document? home).isSome) : lib.isTag (.root home) = true := by
  obtain ⟨document, hdocument⟩ := Option.isSome_iff_exists.mp h
  rw [isTag, tree?, Node.root, hdocument]
  rfl

lemma Value.query_from_document (h : (lib.document? home).isSome) (css : String) :
    query lib home (.text css) (.document home) = query lib home (.text css) .none := by
  have hroot : (NodeSet.ofList home [Node.root home]).nodes.filter lib.isTag = [.root home] := by
    simp [NodeSet.ofList, firsts, Library.isTag_root h]
  rw [query_of_nodeSet (v := .document home) (by simp) rfl, hroot, query, Library.selectEach]
  cases hfound : lib.select (.root home) css with
  | error fault => rfl
  | ok found =>
    have hsub : found.Sublist (lib.preorder home) :=
      (Library.select_sublist hfound).trans (Library.descendantElements_sublist_preorder rfl)
    have hsorted : NodeSet.sorted home found = found :=
      Library.eq_of_sublist_preorder (NodeSet.sorted_sublist_preorder hsub.subset) hsub
        fun m => NodeSet.mem_sorted
    change Except.ok (NodeSet.ofList home (NodeSet.sorted home (found ++ []))) = _
    rw [List.append_nil, hsorted]
    rfl

namespace Pseudo

variable (lib home) (registry : Registry β) (selector : String)

def follow (context : Context) (ss : List Segment) : Traced β NodeSet := do
  let c ← evaluate lib home registry selector context ss
  Traced.ofExcept (c.nodeSet lib home)

lemma resolve_congr {v w : Value}
    (h : ∀ ss, segments selector = .ok ss →
      follow lib home registry selector (.ofValue v) ss =
        follow lib home registry selector (.ofValue w) ss) :
    resolve lib home registry selector v = resolve lib home registry selector w := by
  refine congrArg (Traced.bind registry.announce) (funext fun _ => ?_)
  cases hs : segments selector with
  | error fault => rfl
  | ok ss => exact congrArg (fun t => Traced.bind (Traced.ok ss) fun _ => t) (h ss hs)

lemma follow_given {v : Value} {s : NodeSet} (hv : v ≠ .none) (h : v.nodeSet lib home = .ok s)
    (ss : List Segment) :
    follow lib home registry selector (.given v) ss =
      follow lib home registry selector (.reached s) ss := by
  cases ss with
  | nil => exact congrArg Traced.ofExcept h
  | cons segment ss =>
    rw [follow, evaluate, applySegment_given lib registry selector hv h, ← evaluate, ← follow]

/-- From a value evaluation does what it does from the set of nodes that the value stands for, and
a selector that starts with plain CSS does from the document what it does without a context. -/
theorem resolve_wrapped (lib : Library) (home : Nat) (registry : Registry β) (selector : String)
    (hhome : (lib.document? home).isSome) :
    (∀ v s, v ≠ .none → v.nodeSet lib home = .ok s →
      resolve lib home registry selector v = resolve lib home registry selector (.set s)) ∧
    ∀ text position rest, segments selector = .ok (.plain text position :: rest) →
      resolve lib home registry selector (.document home) =
        resolve lib home registry selector .none := by
  constructor
  · intro v s hv h
    have hgiven : Context.ofValue v = .given v := by
      cases v with
      | none => exact absurd rfl hv
      | _ => rfl
    have hset : (Value.set s).nodeSet lib home = .ok s :=
      Value.nodeSet_set (Value.nodeSet_home h)
    refine resolve_congr lib home registry selector fun ss _ => ?_
    rw [hgiven, follow_given lib home registry selector hv h]
    exact (follow_given lib home registry selector (v := .set s) nofun hset ss).symm
  · intro text position rest hs
    have hstep : applySegment lib home registry selector (.ofValue (.document home))
        (.plain text position) =
          applySegment lib home registry selector (.ofValue .none) (.plain text position) :=
      congrArg Traced.ofExcept (Value.query_from_document hhome text)
    refine resolve_congr lib home registry selector fun ss hss => ?_
    obtain rfl := Except.ok.inj (hs.symm.trans hss)
    rw [follow, evaluate, hstep, ← evaluate, ← follow]

theorem resolve_wrapped_mixed :
    let lib : Library := ⟨[⟨.html, [.element "p" [] [.text "b", .element "b" [] []],
      .element "b" [] []]⟩]⟩
    let registry : Registry Unit := .builtin
    let v : Value := .nodes [some ⟨0, [0, 0]⟩, some ⟨0, [0]⟩, none, some ⟨0, [0]⟩]
    let s : NodeSet := .ofList 0 [⟨0, [0, 0]⟩, ⟨0, [0]⟩]
    v.nodeSet lib 0 = .ok s ∧
    resolve lib 0 registry "b:parent" v = resolve lib 0 registry "b:parent" (.set s) ∧
    (resolve lib 0 registry "b:parent" v).outcome.map NodeSet.nodes = .ok [⟨0, [0]⟩] ∧
    resolve lib 0 registry ":children" v = resolve lib 0 registry ":children" (.set s) ∧
    segments "b:parent" = .ok [.plain "b" 0, .pseudo ":parent" 1 ⟨"parent", []⟩] ∧
    resolve lib 0 registry "b:parent" (.document 0) = resolve lib 0 registry "b:parent" .none := by
  intro lib registry v s
  have hv : v.nodeSet lib 0 = .ok s := rfl
  have hs : segments "b:parent" = .ok [.plain "b" 0, .pseudo ":parent" 1 ⟨"parent", []⟩] := by
    decide +kernel
  obtain ⟨hwrapped, hdocument⟩ := resolve_wrapped lib 0 registry "b:parent" rfl
  refine ⟨hv, hwrapped v s nofun hv, by decide +kernel, ?_, hs, hdocument "b" 0 _ hs⟩
  exact (resolve_wrapped lib 0 registry ":children" rfl).1 v s nofun hv

end Pseudo

end MarkupQuery
