import MarkupQuery.Proofs.Nodes.Direction

namespace MarkupQuery

variable {lib : Library} {home : Nat} {s t : NodeSet} {v : Value} {step : Node → List Node}
  {above ns : List Node} {a n m p : Node}

namespace Node

lemma isProperPrefix_iff {p q : List Nat} :
    isProperPrefix p q = true ↔ ∃ r, r ≠ [] ∧ q = p ++ r := by
  induction p generalizing q with
  | nil => cases q <;> simp [isProperPrefix]
  | cons i p ih =>
    cases q with
    | nil => simp [isProperPrefix]
    | cons j q =>
      simp only [isProperPrefix, Bool.and_eq_true, beq_iff_eq, ih, List.cons_append,
        List.cons.injEq]
      constructor
      · rintro ⟨rfl, r, hr, rfl⟩
        exact ⟨r, hr, rfl, rfl⟩
      · rintro ⟨r, hr, rfl, rfl⟩
        exact ⟨rfl, r, hr, rfl⟩

lemma isAncestorOf_iff :
    a.isAncestorOf n = true ↔ n.document = a.document ∧ ∃ r, r ≠ [] ∧ n.path = a.path ++ r := by
  rw [isAncestorOf, Bool.and_eq_true, beq_iff_eq, isProperPrefix_iff, eq_comm]

lemma isAncestorOf_trans (ha : a.isAncestorOf n = true) (hn : n.isAncestorOf m = true) :
    a.isAncestorOf m = true := by
  obtain ⟨hd, r, hr, hp⟩ := isAncestorOf_iff.mp ha
  obtain ⟨hd', r', -, hp'⟩ := isAncestorOf_iff.mp hn
  refine isAncestorOf_iff.mpr ⟨hd'.trans hd, r ++ r', by simp [hr], ?_⟩
  rw [hp', hp, List.append_assoc]

lemma isAncestorOf_child (n : Node) (i : Nat) : n.isAncestorOf (n.child i) = true :=
  isAncestorOf_iff.mpr ⟨rfl, [i], by simp, rfl⟩

lemma eq_or_isAncestorOf_parent (hp : n.parent? = some p) (h : a.isAncestorOf n = true) :
    a = p ∨ a.isAncestorOf p = true := by
  obtain ⟨hd, r, hr, hpath⟩ := isAncestorOf_iff.mp h
  have hn : n.path ≠ [] := by simp [hpath, hr]
  obtain rfl : (⟨n.document, n.path.dropLast⟩ : Node) = p := by
    simpa [parent?, hn] using hp
  have hdrop : n.path.dropLast = a.path ++ r.dropLast := by
    rw [hpath, List.dropLast_append_of_ne_nil hr]
  by_cases hlast : r.dropLast = []
  · left
    rw [hlast, List.append_nil] at hdrop
    exact eq_of_path hd.symm hdrop.symm
  · exact .inr (isAncestorOf_iff.mpr ⟨hd, r.dropLast, hlast, hdrop⟩)

end Node

namespace Library

def Below (lib : Library) (a m : Node) : Prop := a.isAncestorOf m = true ∧ lib.Holds m

def Confined (lib : Library) (step : Node → List Node) : Prop :=
  ∀ a n m, lib.Below a n → m ∈ step n → lib.Below a m

lemma Below.trans (ha : lib.Below a n) (hn : lib.Below n m) : lib.Below a m :=
  ⟨Node.isAncestorOf_trans ha.1 hn.1, hn.2⟩

lemma below_of_mem_childNodes (h : m ∈ lib.childNodes n) : lib.Below n m := by
  obtain ⟨i, -, rfl⟩ := mem_childNodes.mp h
  exact ⟨n.isAncestorOf_child i, (holds_of_mem_childNodes h).2.2⟩

lemma below_of_mem_descendantElements (h : m ∈ lib.descendantElements n) : lib.Below n m := by
  obtain ⟨hd, hpath, -⟩ := mem_descendantElements.mp h
  have he := (isElement_of_mem_descendantElements h).2
  exact ⟨Node.isAncestorOf_iff.mpr ⟨hd, hpath⟩, (holds_of_isElement he).2⟩

lemma Below.sibling (h : lib.Below a n) (hp : n.parent? = some p) (hm : m ∈ lib.childNodes p) :
    lib.Below a m := by
  have hpm := below_of_mem_childNodes hm
  rcases Node.eq_or_isAncestorOf_parent hp h.1 with rfl | hap
  · exact hpm
  · exact ⟨Node.isAncestorOf_trans hap hpm.1, hpm.2⟩

lemma confined_childNodes : lib.Confined lib.childNodes :=
  fun _ _ _ h hm => h.trans (below_of_mem_childNodes hm)

lemma confined_followingElements : lib.Confined lib.followingElements := by
  intro a n m h hm
  obtain ⟨p, hp, hc⟩ := exists_parent_of_mem_following (List.mem_filter.mp hm).1
  exact h.sibling hp hc

lemma confined_precedingElements : lib.Confined lib.precedingElements := by
  intro a n m h hm
  obtain ⟨p, hp, hc⟩ := exists_parent_of_mem_preceding (List.mem_filter.mp hm).1
  exact h.sibling hp hc

lemma confined_siblingElements : lib.Confined lib.siblingElements := by
  intro a n m h hm
  rw [siblingElements] at hm
  split at hm
  · next p hp => exact h.sibling hp (List.mem_filter.mp (List.mem_filter.mp hm).1).1
  · cases hm

lemma Confined.filter (h : lib.Confined step) (test : Node → Bool) :
    lib.Confined fun n => (step n).filter test :=
  fun a n m hn hm => h a n m hn (List.mem_filter.mp hm).1

lemma Confined.take (h : lib.Confined step) (k : Nat) : lib.Confined fun n => (step n).take k :=
  fun a n m hn hm => h a n m hn (List.mem_of_mem_take hm)

end Library

namespace NodeSet

def Within (lib : Library) (above : List Node) (s : NodeSet) : Prop :=
  ∀ m ∈ s.nodes, ∃ a ∈ above, lib.Below a m

lemma Within.of_subset (hs : s.Within lib above) (h : t.nodes ⊆ s.nodes) : t.Within lib above :=
  fun m hm => hs m (h hm)

lemma Within.confined (hs : s.Within lib above) (hstep : lib.Confined step)
    (h : t.nodes ⊆ s.nodes.flatMap step) : t.Within lib above := by
  intro m hm
  obtain ⟨n, hn, hnm⟩ := List.mem_flatMap.mp (h hm)
  obtain ⟨a, ha, hbelow⟩ := hs n hn
  exact ⟨a, ha, hstep a n m hbelow hnm⟩

lemma derive_subset (h : s.derive lib step v = .ok t) : t.nodes ⊆ s.nodes.flatMap step := by
  obtain ⟨kept, hkept, rfl⟩ := exists_of_map h
  intro m hm
  exact mem_firsts.mp ((mem_keep hkept).mp (mem_ofList_sorted.mp hm)).1

lemma deriveReversed_subset (h : s.deriveReversed lib step v = .ok t) :
    t.nodes ⊆ s.nodes.flatMap step := by
  obtain ⟨kept, hkept, rfl⟩ := exists_of_map h
  intro m hm
  rw [mem_ofList, List.mem_reverse, mem_sorted] at hm
  exact mem_firsts.mp ((mem_keep hkept).mp hm).1

lemma contents_subset : (s.contents lib).nodes ⊆ s.nodes.flatMap lib.childNodes :=
  fun _ hm => mem_ofList_sorted.mp hm

end NodeSet

lemma Value.query_within {css : String} (hhome : s.home = home)
    (h : query lib home (.text css) (.set s) = .ok t) : t.Within lib s.nodes := by
  rw [query_set_eq hhome] at h
  obtain ⟨found, hfound, rfl⟩ := exists_of_map h
  intro m hm
  obtain ⟨n, hn, below, hbelow, hm⟩ :=
    (Library.mem_selectEach hfound).mp (NodeSet.mem_ofList_sorted.mp hm)
  have hdescendant := (Library.select_sublist hbelow).subset hm
  exact ⟨n, (List.mem_filter.mp hn).1, Library.below_of_mem_descendantElements hdescendant⟩

end MarkupQuery
