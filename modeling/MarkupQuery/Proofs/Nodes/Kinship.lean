import MarkupQuery.Proofs.Nodes.Argument
import MarkupQuery.Proofs.Nodes.Combinators
import MarkupQuery.Proofs.Pseudo.Direction

namespace MarkupQuery

inductive Kinship
  | parent
  | ancestor
  | next
  | later
  | previous
  | earlier
  | sibling
  | child
  | content
  deriving DecidableEq, Repr

variable {lib : Library} {home : Nat} {s t : NodeSet} {m n p q : Node} {i j : Nat} {k : Kinship}

namespace Node

def IsElderOf (n m : Node) : Prop :=
  ∃ (p : Node) (i j : Nat), n = p.child i ∧ m = p.child j ∧ i < j

lemma parent?_child : (p.child i).parent? = some p := parent?_eq_some_iff.mpr ⟨i, rfl⟩

lemma getLast?_child : (p.child i).path.getLast? = some i := by
  simp [child]

lemma child_inj : p.child i = q.child j ↔ p = q ∧ i = j := by
  obtain ⟨document, path⟩ := p
  obtain ⟨document', path'⟩ := q
  simp [child, and_assoc]

lemma child_isElderOf_iff : (p.child i).IsElderOf m ↔ ∃ j, m = p.child j ∧ i < j := by
  constructor
  · rintro ⟨q, i', j, h, rfl, hij⟩
    obtain ⟨rfl, rfl⟩ := child_inj.mp h
    exact ⟨j, rfl, hij⟩
  · rintro ⟨j, rfl, hij⟩
    exact ⟨p, i, j, rfl, rfl, hij⟩

lemma isElderOf_child_iff : m.IsElderOf (p.child i) ↔ ∃ j, m = p.child j ∧ j < i := by
  constructor
  · rintro ⟨q, j, i', rfl, h, hji⟩
    obtain ⟨rfl, rfl⟩ := child_inj.mp h
    exact ⟨j, rfl, hji⟩
  · rintro ⟨j, rfl, hji⟩
    exact ⟨p, j, i, rfl, rfl, hji⟩

lemma IsElderOf.before (h : n.IsElderOf m) : n.Before m := by
  obtain ⟨p, i, j, rfl, rfl, hij⟩ := h
  exact ⟨rfl, List.append_left_lt (List.cons_lt_cons_iff.mpr (.inl hij))⟩

lemma IsElderOf.path_ne_nil (h : n.IsElderOf m) : n.path ≠ [] ∧ m.path ≠ [] := by
  obtain ⟨p, i, j, rfl, rfl, -⟩ := h
  exact ⟨child_path_ne_nil, child_path_ne_nil⟩

lemma IsElderOf.asymm (h : n.IsElderOf m) : ¬ m.IsElderOf n := fun h' =>
  h.before.asymm h'.before

lemma root_or_child (n : Node) :
    n = .root n.document ∨ ∃ (p : Node) (i : Nat), n = p.child i := by
  obtain ⟨document, path⟩ := n
  rcases List.eq_nil_or_concat path with rfl | ⟨path, i, rfl⟩
  · exact .inl rfl
  · exact .inr ⟨⟨document, path⟩, i, by simp [child]⟩

lemma mem_properPrefixes {x y : List Nat} : x ∈ properPrefixes y ↔ isProperPrefix x y = true := by
  induction y generalizing x with
  | nil => cases x <;> simp [properPrefixes, isProperPrefix]
  | cons i y ih =>
    cases x with
    | nil => simp [properPrefixes, isProperPrefix]
    | cons j x =>
      simp only [properPrefixes, isProperPrefix, List.mem_append, List.mem_map, ih]
      grind

lemma pairwise_properPrefixes (x : List Nat) :
    (properPrefixes x).Pairwise fun y z => isProperPrefix z y = true := by
  induction x with
  | nil => exact List.Pairwise.nil
  | cons i x ih =>
    rw [properPrefixes, List.pairwise_append]
    refine ⟨List.pairwise_map.mpr (ih.imp fun h => by simpa [isProperPrefix] using h),
      List.pairwise_singleton _ _, fun y hy z hz => ?_⟩
    obtain ⟨y, -, rfl⟩ := List.mem_map.mp hy
    obtain rfl := List.mem_singleton.mp hz
    rfl

lemma mem_ancestors : m ∈ n.ancestors ↔ m.isAncestorOf n = true := by
  rw [ancestors, List.mem_map, isAncestorOf, Bool.and_eq_true, beq_iff_eq]
  constructor
  · rintro ⟨path, hpath, rfl⟩
    exact ⟨rfl, mem_properPrefixes.mp hpath⟩
  · rintro ⟨hdoc, hpath⟩
    exact ⟨m.path, mem_properPrefixes.mpr hpath, by rw [← hdoc]⟩

lemma pairwise_ancestors : n.ancestors.Pairwise fun a b => b.isAncestorOf a = true :=
  List.pairwise_map.mpr ((pairwise_properPrefixes n.path).imp fun h => by
    simpa [isAncestorOf] using h)

lemma before_of_isAncestorOf (h : m.isAncestorOf n = true) : m.Before n := by
  obtain ⟨hdoc, r, hr, hpath⟩ := isAncestorOf_iff.mp h
  obtain ⟨i, r, rfl⟩ := List.exists_cons_of_ne_nil hr
  refine ⟨hdoc.symm, ?_⟩
  rw [hpath, ← List.append_nil m.path, List.append_assoc]
  exact List.append_left_lt (List.nil_lt_cons i r)

end Node

lemma mem_take_one_iff {α : Type} {R : α → α → Prop} {a : α} {as : List α}
    (hR : ∀ a b, R a b → ¬ R b a) (h : as.Pairwise R) :
    a ∈ as.take 1 ↔ a ∈ as ∧ ∀ b ∈ as, ¬ R b a := by
  cases as with
  | nil => simp
  | cons c as =>
    obtain ⟨hc, -⟩ := List.pairwise_cons.mp h
    simp only [List.take_succ_cons, List.take_zero, List.mem_singleton]
    constructor
    · rintro rfl
      refine ⟨List.mem_cons_self, fun b hb hba => ?_⟩
      rcases List.mem_cons.mp hb with rfl | hb
      · exact hR _ _ hba hba
      · exact hR _ _ (hc b hb) hba
    · rintro ⟨ha, hfirst⟩
      rcases List.mem_cons.mp ha with rfl | ha
      · rfl
      · exact absurd (hc a ha) (hfirst c List.mem_cons_self)

namespace Library

lemma following_child : lib.following (p.child i) = (lib.childNodes p).drop (i + 1) := by
  rw [following, Node.parent?_child, Node.getLast?_child]

lemma preceding_child : lib.preceding (p.child i) = ((lib.childNodes p).take i).reverse := by
  rw [preceding, Node.parent?_child, Node.getLast?_child]

lemma pairwise_childNodes : (lib.childNodes n).Pairwise Node.IsElderOf := by
  refine List.pairwise_map.mpr (List.pairwise_lt_range.imp fun h => ?_)
  exact ⟨n, _, _, rfl, rfl, h⟩

lemma pairwise_following : (lib.following n).Pairwise Node.IsElderOf := by
  rw [following]
  split
  · exact pairwise_childNodes.sublist (List.drop_sublist _ _)
  · exact List.Pairwise.nil

lemma pairwise_followingElements : (lib.followingElements n).Pairwise Node.IsElderOf :=
  pairwise_following.filter _

lemma pairwise_preceding : (lib.preceding n).Pairwise fun a b => b.IsElderOf a := by
  rw [preceding]
  split
  · exact List.pairwise_reverse.mpr (pairwise_childNodes.sublist (List.take_sublist _ _))
  · exact List.Pairwise.nil

lemma pairwise_precedingElements :
    (lib.precedingElements n).Pairwise fun a b => b.IsElderOf a :=
  pairwise_preceding.filter _

lemma mem_following : m ∈ lib.following n ↔ n.IsElderOf m ∧ lib.Holds m := by
  rcases n.root_or_child with hn | ⟨p, i, rfl⟩
  · rw [hn]
    exact ⟨nofun, fun h => absurd rfl h.1.path_ne_nil.1⟩
  rw [following_child, Node.child_isElderOf_iff, childNodes, ← List.map_drop, List.mem_map]
  constructor
  · rintro ⟨j, hj, rfl⟩
    rw [List.range_eq_range', List.drop_range', List.mem_range'_1] at hj
    exact ⟨⟨j, rfl, by omega⟩, holds_child_iff.mpr (by omega)⟩
  · rintro ⟨⟨j, rfl, hij⟩, hholds⟩
    refine ⟨j, ?_, rfl⟩
    have hj := holds_child_iff.mp hholds
    rw [List.range_eq_range', List.drop_range', List.mem_range'_1]
    omega

lemma mem_preceding : m ∈ lib.preceding n ↔ m.IsElderOf n ∧ lib.Holds m := by
  rcases n.root_or_child with hn | ⟨p, i, rfl⟩
  · rw [hn]
    exact ⟨nofun, fun h => absurd rfl h.1.path_ne_nil.2⟩
  rw [preceding_child, Node.isElderOf_child_iff, childNodes, List.mem_reverse, ← List.map_take,
    List.take_range, List.mem_map]
  simp only [List.mem_range, Nat.lt_min]
  constructor
  · rintro ⟨j, ⟨hji, hj⟩, rfl⟩
    exact ⟨⟨j, rfl, hji⟩, holds_child_iff.mpr hj⟩
  · rintro ⟨⟨j, rfl, hji⟩, hholds⟩
    exact ⟨j, ⟨hji, holds_child_iff.mp hholds⟩, rfl⟩

lemma path_ne_nil_of_parent (h : m.parent? = some p) : m.path ≠ [] := by
  obtain ⟨i, rfl⟩ := Node.parent?_eq_some_iff.mp h
  exact Node.child_path_ne_nil

lemma isElement_eq_isTag (h : m.path ≠ []) : lib.isElement m = lib.isTag m := by
  simp [isElement, Node.isRoot, h]

lemma holds_and_isTag_iff {P : Prop} (h : P → m.path ≠ []) :
    (P ∧ lib.Holds m) ∧ lib.isTag m = true ↔ lib.isElement m = true ∧ P := by
  constructor
  · rintro ⟨⟨hP, -⟩, htag⟩
    exact ⟨isElement_eq_isTag (h hP) ▸ htag, hP⟩
  · rintro ⟨he, hP⟩
    exact ⟨⟨hP, (holds_of_isElement he).2⟩, isElement_eq_isTag (h hP) ▸ he⟩

lemma mem_followingElements :
    m ∈ lib.followingElements n ↔ lib.isElement m = true ∧ n.IsElderOf m := by
  rw [followingElements, List.mem_filter, mem_following]
  exact holds_and_isTag_iff fun h => h.path_ne_nil.2

lemma mem_precedingElements :
    m ∈ lib.precedingElements n ↔ lib.isElement m = true ∧ m.IsElderOf n := by
  rw [precedingElements, List.mem_filter, mem_preceding]
  exact holds_and_isTag_iff fun h => h.path_ne_nil.1

lemma mem_siblingElements : m ∈ lib.siblingElements n ↔
    lib.isElement m = true ∧ m ≠ n ∧ ∃ p, n.parent? = some p ∧ m.parent? = some p := by
  rw [siblingElements]
  cases hp : n.parent? with
  | none => simp
  | some p =>
    simp only [List.mem_filter, mem_childElements_iff, decide_eq_true_eq, Option.some.injEq,
      exists_eq_left']
    constructor
    · rintro ⟨⟨hm, htag⟩, hne⟩
      exact ⟨isElement_eq_isTag (path_ne_nil_of_parent hm) ▸ htag, hne, hm⟩
    · rintro ⟨he, hne, hm⟩
      exact ⟨⟨hm, isElement_eq_isTag (path_ne_nil_of_parent hm) ▸ he⟩, hne⟩

/-- Whether the second of two nodes stands to the first as a kinship says. The next sibling is the
one that no other later sibling comes before; siblings are elements. -/
def Related (lib : Library) : Kinship → Node → Node → Prop
  | .parent, n, m => lib.isElement m = true ∧ n.parent? = some m
  | .ancestor, n, m => lib.isElement m = true ∧ m.isAncestorOf n = true
  | .next, n, m => (lib.isElement m = true ∧ n.IsElderOf m) ∧
      ∀ k, lib.isElement k = true ∧ n.IsElderOf k → ¬ k.IsElderOf m
  | .later, n, m => lib.isElement m = true ∧ n.IsElderOf m
  | .previous, n, m => (lib.isElement m = true ∧ m.IsElderOf n) ∧
      ∀ k, lib.isElement k = true ∧ k.IsElderOf n → ¬ m.IsElderOf k
  | .earlier, n, m => lib.isElement m = true ∧ m.IsElderOf n
  | .sibling, n, m =>
    lib.isElement m = true ∧ m ≠ n ∧ ∃ p, n.parent? = some p ∧ m.parent? = some p
  | .child, n, m => lib.isElement m = true ∧ m.parent? = some n
  | .content, n, m => lib.Holds m ∧ m.parent? = some n

end Library

namespace NodeSet

lemma keep_admits_none (ns : List Node) : keep (Value.admits lib home .none) ns = .ok ns := by
  have htest : ∀ n ∈ ns, Value.admits lib home .none n = .ok true := fun _ _ => rfl
  rw [keep_eq_filter htest, List.filter_true]

lemma exists_derive (lib : Library) (s : NodeSet) (step : Node → List Node) :
    ∃ t, s.derive lib step .none = .ok t ∧ ∀ m, m ∈ t.nodes ↔ ∃ n ∈ s.nodes, m ∈ step n := by
  rw [derive, keep_admits_none]
  exact ⟨_, rfl, fun m => by simp [mem_ofList_sorted, mem_firsts]⟩

lemma exists_deriveReversed (lib : Library) (s : NodeSet) (step : Node → List Node) :
    ∃ t, s.deriveReversed lib step .none = .ok t ∧
      ∀ m, m ∈ t.nodes ↔ ∃ n ∈ s.nodes, m ∈ step n := by
  rw [deriveReversed, keep_admits_none]
  exact ⟨_, rfl, fun m => by simp [mem_ofList, mem_sorted, mem_firsts]⟩

end NodeSet

namespace Kinship

open Pseudo

def operation : Kinship → Operation
  | parent => .parent
  | ancestor => .parents
  | next => .next
  | later => .nextAll
  | previous => .prev
  | earlier => .prevAll
  | sibling => .siblings
  | child => .children
  | content => .contents

def direction : Kinship → Direction
  | ancestor | earlier => .backward
  | _ => .forward

def step (lib : Library) : Kinship → Node → List Node
  | parent => lib.parentElement
  | ancestor => lib.ancestorElements
  | next => fun n => (lib.followingElements n).take 1
  | later => lib.followingElements
  | previous => fun n => (lib.precedingElements n).take 1
  | earlier => lib.precedingElements
  | sibling => lib.siblingElements
  | child => lib.childElements
  | content => lib.childNodes

lemma mem_step : m ∈ k.step lib n ↔ lib.Related k n m := by
  cases k with
  | parent => simp [step, Library.Related, Library.parentElement, and_comm]
  | ancestor =>
    simp [step, Library.Related, Library.ancestorElements, Node.mem_ancestors, and_comm]
  | next =>
    rw [step, mem_take_one_iff (fun _ _ h => h.asymm) Library.pairwise_followingElements]
    simp only [Library.mem_followingElements, Library.Related]
  | later => exact Library.mem_followingElements
  | previous =>
    rw [step, mem_take_one_iff (fun _ _ h => h.asymm) Library.pairwise_precedingElements]
    simp only [Library.mem_precedingElements, Library.Related]
  | earlier => exact Library.mem_precedingElements
  | sibling => exact Library.mem_siblingElements
  | child =>
    rw [step, Library.mem_childElements_iff, Library.Related, and_comm]
    refine and_congr_left fun hp => ?_
    rw [Library.isElement_eq_isTag (Library.path_ne_nil_of_parent hp)]
  | content => rw [step, Library.mem_childNodes_iff, Library.Related, and_comm]

lemma pairwise_step : (k.step lib n).Pairwise k.direction.Before := by
  cases k with
  | parent =>
    refine List.Pairwise.filter _ ?_
    cases n.parent? with
    | none => exact List.Pairwise.nil
    | some p => exact List.pairwise_singleton _ _
  | ancestor => exact (Node.pairwise_ancestors.imp Node.before_of_isAncestorOf).filter _
  | next =>
    exact (Library.pairwise_followingElements.sublist (List.take_sublist 1 _)).imp
      Node.IsElderOf.before
  | later => exact Library.pairwise_followingElements.imp Node.IsElderOf.before
  | previous =>
    simp only [step, List.take_one]
    cases (lib.precedingElements n).head? with
    | none => exact List.Pairwise.nil
    | some m => exact List.pairwise_singleton _ _
  | earlier => exact Library.pairwise_precedingElements.imp Node.IsElderOf.before
  | sibling =>
    simp only [step, Library.siblingElements]
    split
    · exact ((Library.pairwise_childNodes.filter _).filter _).imp Node.IsElderOf.before
    · exact List.Pairwise.nil
  | child => exact (Library.pairwise_childNodes.filter _).imp Node.IsElderOf.before
  | content => exact Library.pairwise_childNodes.imp Node.IsElderOf.before

lemma exists_apply (lib : Library) (k : Kinship) (s : NodeSet) :
    ∃ t, k.operation.apply lib s [] = .ok t ∧
      ∀ m, m ∈ t.nodes ↔ ∃ n ∈ s.nodes, lib.Related k n m := by
  simp only [← mem_step]
  cases k with
  | ancestor | earlier => exact NodeSet.exists_deriveReversed lib s _
  | content =>
    exact ⟨_, rfl, fun m => by simp [NodeSet.contents, NodeSet.mem_ofList_sorted, step]⟩
  | _ => exact NodeSet.exists_derive lib s _

lemma apply_directed (hhome : s.home = home) (hs : ∀ n ∈ s.nodes, n.document = home)
    (h : k.operation.apply lib s [] = .ok t) :
    t.nodes.Sublist (lib.listing home k.direction) := by
  by_cases hk : k = .content
  · subst hk
    obtain rfl := Except.ok.inj h
    exact NodeSet.contents_directed hhome hs
  · have hop : k.operation ∉ [.find, .contents, .add] := by
      cases k <;> first | decide | exact absurd rfl hk
    have hturn : k.operation.turn? [] = some k.direction := by cases k <;> rfl
    exact (Operation.apply_directed hhome hs hop hturn h).1

/-- Without a selector each step from nodes of a document leads to the nodes of its kinship, once
each and in document order, or in its reverse for ancestors and earlier siblings; so from each node
the nearest of these come first. With a set of nodes `has` keeps what is above one of them. -/
theorem apply_operation (lib : Library) (home : Nat) (s : NodeSet) (hhome : s.home = home)
    (hs : ∀ n ∈ s.nodes, n.document = home) :
    (∀ k : Kinship, ∃ t, k.operation.apply lib s [] = .ok t ∧
      (∀ m, m ∈ t.nodes ↔ ∃ n ∈ s.nodes, lib.Related k n m) ∧
      t.nodes.Sublist (lib.listing home k.direction) ∧ .root home ∉ t.nodes ∧
      ∀ n ∈ s.nodes, (k.step lib n).Sublist t.nodes) ∧
    ∀ u : NodeSet, ∃ t, Operation.has.apply lib s [.set u] = .ok t ∧
      t.nodes = s.nodes.filter fun n => u.nodes.any fun m => n.isAncestorOf m := by
  constructor
  · intro k
    obtain ⟨t, ht, hmem⟩ := exists_apply lib k s
    have hdirected := apply_directed hhome hs ht
    refine ⟨t, ht, hmem, hdirected, fun hroot => ?_, fun n hn => ?_⟩
    · exact (Library.mem_preorder.mp (Library.mem_listing.mp (hdirected.subset hroot))).2.1 rfl
    · -- What one node leads to and the whole result stand in one order, so it is enough that the
      -- result has all of it.
      refine sublist_of_pairwise (fun _ _ h => h.asymm) (fun m hm => ?_) pairwise_step
        (Library.pairwise_listing.sublist hdirected)
      exact (hmem m).mpr ⟨n, hn, mem_step.mp hm⟩
  · intro u
    exact ⟨_, NodeSet.has_set lib s u, NodeSet.ofList_nodes_of_sublist List.filter_sublist⟩

theorem apply_operation_mixed :
    let lib : Library := ⟨[⟨.html, [.element "div" [] [.text "x",
      .element "p" [] [.element "b" [] []], .comment "y", .element "q" [] []],
      .element "p" [] []]⟩]⟩
    let s : NodeSet := .ofList 0 [⟨0, [0, 2]⟩, ⟨0, [0, 1, 0]⟩, ⟨0, []⟩, ⟨0, [0, 0]⟩]
    ∃ above after below around : NodeSet,
      Operation.parents.apply lib s [] = .ok above ∧ above.nodes = [⟨0, [0, 1]⟩, ⟨0, [0]⟩] ∧
      Operation.next.apply lib s [] = .ok after ∧ after.nodes = [⟨0, [0, 1]⟩, ⟨0, [0, 3]⟩] ∧
      Operation.contents.apply lib s [] = .ok below ∧ below.nodes = [⟨0, [0]⟩, ⟨0, [1]⟩] ∧
      (∀ m, m ∈ after.nodes ↔ ∃ n ∈ s.nodes, lib.Related .next n m) ∧
      Operation.has.apply lib s [.set (.ofList 0 [⟨0, [0, 1]⟩])] = .ok around ∧
      around.nodes = [⟨0, []⟩] := by
  intro lib s
  obtain ⟨hparents, hnexts, hcontents⟩ :
      NodeSet.sorted 0 [⟨0, [0]⟩, ⟨0, [0, 1]⟩] = [⟨0, [0]⟩, ⟨0, [0, 1]⟩] ∧
      NodeSet.sorted 0 [⟨0, [0, 3]⟩, ⟨0, [0, 1]⟩] = [⟨0, [0, 1]⟩, ⟨0, [0, 3]⟩] ∧
      NodeSet.sorted 0 [⟨0, [0]⟩, ⟨0, [1]⟩] = [⟨0, [0]⟩, ⟨0, [1]⟩] := by
    simp [NodeSet.sorted, firsts, List.mergeSort, Node.pathLe]
  have habove : Operation.parents.apply lib s [] = .ok (.ofList 0 [⟨0, [0, 1]⟩, ⟨0, [0]⟩]) :=
    congrArg (fun ns : List Node => Except.ok (NodeSet.ofList 0 ns.reverse)) hparents
  have hafter : Operation.next.apply lib s [] = .ok (.ofList 0 [⟨0, [0, 1]⟩, ⟨0, [0, 3]⟩]) :=
    congrArg (fun ns => Except.ok (NodeSet.ofList 0 ns)) hnexts
  have hbelow : Operation.contents.apply lib s [] = .ok (.ofList 0 [⟨0, [0]⟩, ⟨0, [1]⟩]) :=
    congrArg (fun ns => Except.ok (NodeSet.ofList 0 ns)) hcontents
  obtain ⟨hkin, hhas⟩ := apply_operation lib 0 s rfl (by decide)
  obtain ⟨after, (ht : Operation.next.apply lib s [] = .ok after), hmem, -⟩ := hkin .next
  obtain rfl := Except.ok.inj (hafter.symm.trans ht)
  obtain ⟨around, haround, hkept⟩ := hhas (.ofList 0 [⟨0, [0, 1]⟩])
  exact ⟨_, _, _, around, habove, rfl, hafter, rfl, hbelow, rfl, hmem, haround,
    by rw [hkept]; decide⟩

end Kinship

end MarkupQuery
