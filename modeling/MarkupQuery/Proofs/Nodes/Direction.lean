import MarkupQuery.Proofs.Nodes.Home
import MarkupQuery.Proofs.Nodes.Preorder

namespace MarkupQuery

inductive Direction
  | forward
  | backward
  deriving DecidableEq, Repr

variable {lib : Library} {home : Nat} {s t : NodeSet} {v : Value} {step : Node → List Node}
  {ns : List Node} {n m : Node} {d : Direction}

def Library.listing (lib : Library) (home : Nat) : Direction → List Node
  | .forward => lib.preorder home
  | .backward => (lib.preorder home).reverse

def Direction.Before : Direction → Node → Node → Prop
  | .forward => fun m n => m.Before n
  | .backward => fun m n => n.Before m

def Library.Finds (lib : Library) (step : Node → List Node) : Prop :=
  ∀ n m, m ∈ step n → m.document = n.document ∧ lib.isElement m

lemma Direction.Before.asymm (h : d.Before m n) : ¬ d.Before n m := by
  cases d
  · exact Node.Before.asymm h
  · exact Node.Before.asymm h

namespace Library

lemma mem_listing : n ∈ lib.listing home d ↔ n ∈ lib.preorder home := by
  cases d
  · rfl
  · exact List.mem_reverse

lemma document_of_sublist_listing (h : ns.Sublist (lib.listing home d)) :
    ∀ n ∈ ns, n.document = home :=
  fun _ hn => (mem_preorder.mp (mem_listing.mp (h.subset hn))).1

lemma nodup_preorder : (lib.preorder home).Nodup :=
  pairwise_preorder.imp fun h he => by
    subst he
    exact h.asymm h

lemma pairwise_listing : (lib.listing home d).Pairwise d.Before := by
  cases d
  · exact pairwise_preorder
  · exact List.pairwise_reverse.mpr pairwise_preorder

lemma finds_parentElement : lib.Finds lib.parentElement := by
  intro n m hm
  obtain ⟨hp, he⟩ := List.mem_filter.mp hm
  rw [Option.mem_toList, Node.parent?] at hp
  split at hp
  · cases hp
  · cases hp
    exact ⟨rfl, he⟩

lemma finds_ancestorElements : lib.Finds lib.ancestorElements := by
  intro n m hm
  obtain ⟨ha, he⟩ := List.mem_filter.mp hm
  obtain ⟨p, -, rfl⟩ := List.mem_map.mp ha
  exact ⟨rfl, he⟩

lemma finds_childElements : lib.Finds lib.childElements := by
  intro n m hm
  obtain ⟨hc, htag⟩ := List.mem_filter.mp hm
  exact ⟨(holds_of_mem_childNodes hc).1, isElement_of_childNode hc htag⟩

lemma finds_descendantElements : lib.Finds lib.descendantElements :=
  fun _ _ => isElement_of_mem_descendantElements

lemma parent?_document {p : Node} (h : n.parent? = some p) : p.document = n.document := by
  rw [Node.parent?] at h
  split at h
  · cases h
  · cases h
    rfl

lemma exists_parent_of_mem_following (h : m ∈ lib.following n) :
    ∃ p, n.parent? = some p ∧ m ∈ lib.childNodes p := by
  rw [following] at h
  split at h
  · next p i hp _ => exact ⟨p, hp, List.mem_of_mem_drop h⟩
  · cases h

lemma exists_parent_of_mem_preceding (h : m ∈ lib.preceding n) :
    ∃ p, n.parent? = some p ∧ m ∈ lib.childNodes p := by
  rw [preceding] at h
  split at h
  · next p i hp _ => exact ⟨p, hp, List.mem_of_mem_take (List.mem_reverse.mp h)⟩
  · cases h

lemma finds_of_siblings (hstep : ∀ n m, m ∈ step n →
    lib.isTag m ∧ ∃ p, n.parent? = some p ∧ m ∈ lib.childNodes p) : lib.Finds step := by
  intro n m hm
  obtain ⟨htag, p, hp, hc⟩ := hstep n m hm
  have hdoc : m.document = p.document := (holds_of_mem_childNodes hc).1
  exact ⟨hdoc.trans (parent?_document hp), isElement_of_childNode hc htag⟩

lemma finds_followingElements : lib.Finds lib.followingElements := by
  refine finds_of_siblings fun n m hm => ?_
  obtain ⟨hm, htag⟩ := List.mem_filter.mp hm
  exact ⟨htag, exists_parent_of_mem_following hm⟩

lemma finds_precedingElements : lib.Finds lib.precedingElements := by
  refine finds_of_siblings fun n m hm => ?_
  obtain ⟨hm, htag⟩ := List.mem_filter.mp hm
  exact ⟨htag, exists_parent_of_mem_preceding hm⟩

lemma finds_siblingElements : lib.Finds lib.siblingElements := by
  refine finds_of_siblings fun n m hm => ?_
  rw [siblingElements] at hm
  split at hm
  · next p hp =>
    obtain ⟨hm, htag⟩ := List.mem_filter.mp (List.mem_filter.mp hm).1
    exact ⟨htag, p, hp, hm⟩
  · cases hm

lemma Finds.take (h : lib.Finds step) (k : Nat) : lib.Finds fun n => (step n).take k :=
  fun n m hm => h n m (List.mem_of_mem_take hm)

lemma finds_inclusiveAncestors : lib.Finds lib.inclusiveAncestors := by
  intro n m hm
  rw [inclusiveAncestors] at hm
  split at hm
  · next he =>
    rcases List.mem_cons.mp hm with rfl | hm
    · exact ⟨rfl, he⟩
    · exact finds_ancestorElements n m hm
  · cases hm

end Library

namespace NodeSet

lemma ofList_sorted_nodes (hns : ns ⊆ lib.preorder home) :
    (ofList home (sorted home ns)).nodes = sorted home ns :=
  firsts_eq_self (Library.nodup_preorder.sublist (sorted_sublist_preorder hns))

lemma ofList_nodes_of_sublist (h : ns.Sublist s.nodes) : (ofList home ns).nodes = ns :=
  firsts_eq_self (s.nodup.sublist h)

lemma subset_preorder_of_finds (hstep : lib.Finds step) (hs : ∀ n ∈ s.nodes, n.document = home)
    (hns : ns ⊆ s.nodes.flatMap step) :
    ns ⊆ lib.preorder home ∧ ∀ m ∈ ns, lib.isElement m := by
  have hfound : ∀ m ∈ ns, m.document = home ∧ lib.isElement m := by
    intro m hm
    obtain ⟨n, hn, hm⟩ := List.mem_flatMap.mp (hns hm)
    obtain ⟨hdoc, he⟩ := hstep n m hm
    exact ⟨hdoc.trans (hs n hn), he⟩
  refine ⟨fun m hm => ?_, fun m hm => (hfound m hm).2⟩
  exact Library.mem_preorder_of_isElement (hfound m hm).1 (hfound m hm).2

lemma ofList_sorted_directed (hstep : lib.Finds step) (hs : ∀ n ∈ s.nodes, n.document = home)
    (hns : ns ⊆ s.nodes.flatMap step) :
    (ofList home (sorted home ns)).nodes.Sublist (lib.preorder home) ∧
      ∀ m ∈ (ofList home (sorted home ns)).nodes, lib.isElement m := by
  obtain ⟨hpre, he⟩ := subset_preorder_of_finds hstep hs hns
  refine ⟨?_, fun m hm => he m (mem_ofList_sorted.mp hm)⟩
  rw [ofList_sorted_nodes hpre]
  exact sorted_sublist_preorder hpre

lemma derive_directed (hstep : lib.Finds step) (hhome : s.home = home)
    (hs : ∀ n ∈ s.nodes, n.document = home) (h : s.derive lib step v = .ok t) :
    t.nodes.Sublist (lib.listing home .forward) ∧ ∀ m ∈ t.nodes, lib.isElement m := by
  subst hhome
  obtain ⟨kept, hkept, rfl⟩ := exists_of_map h
  exact ofList_sorted_directed hstep hs fun m hm => mem_firsts.mp ((mem_keep hkept).mp hm).1

lemma deriveReversed_directed (hstep : lib.Finds step) (hhome : s.home = home)
    (hs : ∀ n ∈ s.nodes, n.document = home) (h : s.deriveReversed lib step v = .ok t) :
    t.nodes.Sublist (lib.listing home .backward) ∧ ∀ m ∈ t.nodes, lib.isElement m := by
  subst hhome
  obtain ⟨kept, hkept, rfl⟩ := exists_of_map h
  have hsub : kept ⊆ s.nodes.flatMap step := fun m hm =>
    mem_firsts.mp ((mem_keep hkept).mp hm).1
  obtain ⟨hpre, he⟩ := subset_preorder_of_finds hstep hs hsub
  have hsorted := sorted_sublist_preorder hpre
  have hnodes : (ofList s.home (sorted s.home kept).reverse).nodes = (sorted s.home kept).reverse :=
    firsts_eq_self (List.nodup_reverse.mpr (Library.nodup_preorder.sublist hsorted))
  refine ⟨?_, fun m hm => ?_⟩
  · rw [hnodes]
    exact hsorted.reverse
  · rw [hnodes, List.mem_reverse, mem_sorted] at hm
    exact he m hm

lemma closest_directed (hhome : s.home = home) (hs : ∀ n ∈ s.nodes, n.document = home)
    (h : s.closest lib v = .ok t) :
    t.nodes.Sublist (lib.listing home .forward) ∧ ∀ m ∈ t.nodes, lib.isElement m := by
  subst hhome
  by_cases hv : v = .none
  · subst hv
    obtain rfl := Except.ok.inj h
    exact ⟨List.nil_sublist _, nofun⟩
  · rw [closest_of_given hv] at h
    obtain ⟨found, hfound, rfl⟩ := exists_of_map h
    refine ofList_sorted_directed Library.finds_inclusiveAncestors hs fun m hm => ?_
    obtain ⟨n, hn, hnm⟩ := (mem_collect hfound).mp hm
    exact List.mem_flatMap.mpr ⟨n, hn, firstKept?_mem hnm⟩

lemma contents_directed (hhome : s.home = home) (hs : ∀ n ∈ s.nodes, n.document = home) :
    (s.contents lib).nodes.Sublist (lib.listing home .forward) := by
  subst hhome
  have hpre : s.nodes.flatMap lib.childNodes ⊆ lib.preorder s.home := by
    intro m hm
    obtain ⟨n, hn, hm⟩ := List.mem_flatMap.mp hm
    obtain ⟨hdoc, hholds⟩ := Library.holds_of_mem_childNodes hm
    exact Library.mem_preorder.mpr ⟨hdoc.trans (hs n hn), hholds⟩
  rw [contents, ofList_sorted_nodes hpre]
  exact sorted_sublist_preorder hpre

lemma filter_sublist (h : s.filter lib v = .ok t) : t.nodes.Sublist s.nodes := by
  by_cases hv : v = .none
  · subst hv
    obtain rfl := Except.ok.inj h
    exact List.nil_sublist _
  · rw [filter_of_given hv] at h
    obtain ⟨kept, hkept, rfl⟩ := exists_of_map h
    rw [ofList_nodes_of_sublist (keep_sublist hkept)]
    exact keep_sublist hkept

lemma exclude_sublist (h : s.exclude lib v = .ok t) : t.nodes.Sublist s.nodes := by
  by_cases hv : v = .none
  · subst hv
    obtain rfl := Except.ok.inj h
    rw [ofList_nodes]
  · rw [exclude_of_given hv] at h
    obtain ⟨kept, hkept, rfl⟩ := exists_of_map h
    rw [ofList_nodes_of_sublist (keep_sublist hkept)]
    exact keep_sublist hkept

lemma has_sublist (h : s.has lib v = .ok t) : t.nodes.Sublist s.nodes := by
  by_cases hv : v = .none
  · subst hv
    obtain rfl := Except.ok.inj h
    exact List.nil_sublist _
  cases hcss : v.cssText? lib with
  | some css =>
    rw [has_of_css hcss] at h
    obtain ⟨kept, hkept, rfl⟩ := exists_of_map h
    rw [ofList_nodes_of_sublist (keep_sublist hkept)]
    exact keep_sublist hkept
  | none =>
    rw [has_of_nodes hv hcss] at h
    obtain ⟨around, -, rfl⟩ := exists_of_map h
    rw [ofList_nodes_of_sublist List.filter_sublist]
    exact List.filter_sublist

lemma first_sublist : s.first.nodes.Sublist s.nodes := by
  have h := List.take_sublist 1 s.nodes
  rw [first, ofList_nodes_of_sublist h]
  exact h

lemma toList_sublist {o : Option Node} (h : ∀ n ∈ o, n ∈ ns) : o.toList.Sublist ns := by
  cases o with
  | none => exact List.nil_sublist _
  | some n => exact List.singleton_sublist.mpr (h n rfl)

lemma last_sublist : s.last.nodes.Sublist s.nodes := by
  have h := toList_sublist fun n (hn : n ∈ s.nodes.getLast?) => List.mem_of_getLast? hn
  rw [last, ofList_nodes_of_sublist h]
  exact h

lemma eq_sublist (h : s.eq lib v = .ok t) : t.nodes.Sublist s.nodes := by
  obtain ⟨i, -, rfl⟩ := exists_of_map h
  have h : ((i.bind (place? s.size)).bind (s.nodes[·]?)).toList.Sublist s.nodes := by
    refine toList_sublist fun n hn => ?_
    obtain ⟨k, -, hk⟩ := Option.bind_eq_some_iff.mp hn
    exact List.mem_of_getElem? hk
  rw [ofList_nodes_of_sublist h]
  exact h

lemma slice_sublist {start stop : Value} (h : s.slice lib start stop = .ok t) :
    t.nodes.Sublist s.nodes := by
  obtain ⟨a, -, h⟩ := exists_of_bind h
  obtain ⟨b, -, h⟩ := exists_of_bind h
  obtain rfl := Except.ok.inj h
  have h : (between a b s.nodes).Sublist s.nodes :=
    (List.drop_sublist _ _).trans (List.take_sublist _ _)
  rw [ofList_nodes_of_sublist h]
  exact h

end NodeSet

namespace Value

variable {css : String}

lemma query_document (h : query lib home (.text css) .none = .ok t) :
    t.nodes.Sublist (lib.preorder home) ∧ ∀ m ∈ t.nodes, lib.isElement m := by
  obtain ⟨found, hfound, rfl⟩ := exists_of_map h
  have hsub := Library.select_sublist hfound
  have hbelow : ∀ m ∈ found, m.document = home ∧ lib.isElement m := fun m hm =>
    Library.isElement_of_mem_descendantElements (hsub.subset hm)
  have hpre : found.Sublist (lib.preorder home) :=
    Library.sublist_preorder
      (fun m hm => Library.mem_preorder_of_isElement (hbelow m hm).1 (hbelow m hm).2)
      (Library.pairwise_descendantElements.sublist hsub)
  have hnodes : (NodeSet.ofList home found).nodes = found :=
    firsts_eq_self (Library.nodup_preorder.sublist hpre)
  rw [hnodes]
  exact ⟨hpre, fun m hm => (hbelow m hm).2⟩

lemma query_set (hhome : s.home = home) (hs : ∀ n ∈ s.nodes, n.document = home)
    (h : query lib home (.text css) (.set s) = .ok t) :
    t.nodes.Sublist (lib.preorder home) ∧ ∀ m ∈ t.nodes, lib.isElement m := by
  rw [query_set_eq hhome] at h
  obtain ⟨found, hfound, rfl⟩ := exists_of_map h
  refine NodeSet.ofList_sorted_directed Library.finds_descendantElements hs fun m hm => ?_
  obtain ⟨n, hn, below, hbelow, hm⟩ := (Library.mem_selectEach hfound).mp hm
  exact List.mem_flatMap.mpr
    ⟨n, (List.mem_filter.mp hn).1, (Library.select_sublist hbelow).subset hm⟩

end Value

end MarkupQuery
