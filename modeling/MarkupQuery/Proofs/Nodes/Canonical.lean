import MarkupQuery.Proofs.Nodes.Argument

/-! Sorting brings a list of nodes into a form that only its members decide: first the nodes of the
document in document order, then those of other documents as they first appear. So unions of sets of
one document do not depend on how they are formed. -/

namespace MarkupQuery

variable {lib : Library} {home : Nat} {ms ns : List Node} {n : Node} {s t s' t' : NodeSet}

lemma firsts_filter {α : Type} [DecidableEq α] (p : α → Bool) (as : List α) :
    firsts (as.filter p) = (firsts as).filter p := by
  induction as with
  | nil => rfl
  | cons a as ih =>
    have hcomm : ((firsts as).filter p).filter (· ≠ a) = ((firsts as).filter (· ≠ a)).filter p := by
      rw [List.filter_filter, List.filter_filter]
      exact List.filter_congr fun b _ => Bool.and_comm _ _
    rw [List.filter_cons, firsts, List.filter_cons]
    split
    · rw [firsts, ih, hcomm]
    · next ha =>
      have hself : ((firsts as).filter p).filter (· ≠ a) = (firsts as).filter p := by
        refine List.filter_eq_self.mpr fun b hb => ?_
        have hne : b ≠ a := fun he => ha (he ▸ (List.mem_filter.mp hb).2)
        simpa using hne
      rw [ih, ← hcomm, hself]

lemma pairwise_firsts {α : Type} [DecidableEq α] (as : List α) :
    (firsts as).Pairwise fun a b => as.idxOf a < as.idxOf b := by
  induction as with
  | nil => exact List.Pairwise.nil
  | cons a as ih =>
    have hlater {b : α} (hb : b ∈ (firsts as).filter (· ≠ a)) :
        (a :: as).idxOf b = as.idxOf b + 1 := by
      have hne : b ≠ a := by simpa using (List.mem_filter.mp hb).2
      rw [List.idxOf_cons_ne _ hne.symm]
    refine List.pairwise_cons.mpr ⟨fun b hb => ?_, ?_⟩
    · rw [List.idxOf_cons_self, hlater hb]
      omega
    · refine (ih.filter _).imp_of_mem fun {b c} hb hc h => ?_
      rw [hlater hb, hlater hc]
      omega

namespace Library

lemma mem_root_preorder (h : lib.Holds n) (hdoc : n.document = home) :
    n ∈ Node.root home :: lib.preorder home := by
  by_cases hpath : n.path = []
  · exact List.mem_cons.mpr (.inl (Node.eq_of_path hdoc hpath))
  · exact List.mem_cons_of_mem _ (mem_preorder.mpr ⟨hdoc, hpath, h⟩)

lemma pairwise_root_preorder : (Node.root home :: lib.preorder home).Pairwise Node.Before := by
  refine List.pairwise_cons.mpr ⟨fun n hn => ?_, pairwise_preorder⟩
  obtain ⟨hdoc, hpath, -⟩ := mem_preorder.mp hn
  obtain ⟨i, path, hpath⟩ := List.exists_cons_of_ne_nil hpath
  exact ⟨hdoc.symm, hpath ▸ List.nil_lt_cons i path⟩

end Library

namespace NodeSet

def native (home : Nat) (ns : List Node) : List Node :=
  ((firsts ns).filter (·.document == home)).mergeSort fun m n => Node.pathLe m.path n.path

def foreign (home : Nat) (ns : List Node) : List Node := (firsts ns).filter (·.document != home)

lemma sorted_eq_append (home : Nat) (ns : List Node) :
    sorted home ns = native home ns ++ foreign home ns := rfl

lemma sorted_perm (home : Nat) (ns : List Node) : (sorted home ns).Perm (firsts ns) :=
  ((List.mergeSort_perm _ _).append_right _).trans (List.filter_append_perm _ _)

lemma nodup_sorted (home : Nat) (ns : List Node) : (sorted home ns).Nodup :=
  (sorted_perm home ns).nodup_iff.mpr (nodup_firsts ns)

lemma mem_native : n ∈ native home ns ↔ n ∈ ns ∧ n.document = home := by
  rw [native, List.mem_mergeSort, List.mem_filter, mem_firsts, beq_iff_eq]

lemma mem_foreign : n ∈ foreign home ns ↔ n ∈ ns ∧ n.document ≠ home := by
  rw [foreign, List.mem_filter, mem_firsts, bne_iff_ne]

lemma pairwise_native : (native home ns).Pairwise Node.Before :=
  pairwise_before_mergeSort ((nodup_firsts ns).filter _) fun n hn => by
    simpa using (List.mem_filter.mp hn).2

lemma pairwise_foreign : (foreign home ns).Pairwise fun m n => ns.idxOf m < ns.idxOf n :=
  (pairwise_firsts ns).filter _

lemma native_sublist (h : ∀ n ∈ ns, lib.Holds n) :
    (native home ns).Sublist (Node.root home :: lib.preorder home) := by
  refine sublist_of_pairwise (fun _ _ h => h.asymm) (fun n hn => ?_) pairwise_native
    Library.pairwise_root_preorder
  obtain ⟨hmem, hdoc⟩ := mem_native.mp hn
  exact Library.mem_root_preorder (h n hmem) hdoc

lemma native_congr (h : ∀ n, n.document = home → (n ∈ ms ↔ n ∈ ns)) :
    native home ms = native home ns := by
  refine eq_of_pairwise (fun _ _ h => h.asymm) pairwise_native pairwise_native fun n => ?_
  rw [mem_native, mem_native]
  exact and_congr_left (h n)

lemma native_filter (home : Nat) (p : Node → Bool) (ns : List Node) :
    native home (ns.filter p) = (native home ns).filter p := by
  refine eq_of_pairwise (fun _ _ h => h.asymm) pairwise_native (pairwise_native.filter p)
    fun n => ?_
  simp only [mem_native, List.mem_filter]
  exact and_right_comm

lemma foreign_filter (home : Nat) (p : Node → Bool) (ns : List Node) :
    foreign home (ns.filter p) = (foreign home ns).filter p := by
  rw [foreign, firsts_filter, foreign, List.filter_filter, List.filter_filter]
  exact List.filter_congr fun n _ => Bool.and_comm _ _

lemma sorted_filter (home : Nat) (p : Node → Bool) (ns : List Node) :
    sorted home (ns.filter p) = (sorted home ns).filter p := by
  rw [sorted_eq_append, native_filter, foreign_filter, ← List.filter_append, ← sorted_eq_append]

lemma foreign_eq_nil (h : ∀ n ∈ ns, n.document = home) : foreign home ns = [] :=
  List.eq_nil_iff_forall_not_mem.mpr fun n hn =>
    (mem_foreign.mp hn).2 (h n (mem_foreign.mp hn).1)

lemma sorted_congr (hns : ∀ n ∈ ns, n.document = home) (h : ∀ n, n ∈ ms ↔ n ∈ ns) :
    sorted home ms = sorted home ns := by
  have hms : ∀ n ∈ ms, n.document = home := fun n hn => hns n ((h n).mp hn)
  rw [sorted_eq_append, sorted_eq_append, native_congr fun n _ => h n, foreign_eq_nil hns,
    foreign_eq_nil hms]

lemma sorted_sorted (home : Nat) (ns : List Node) :
    sorted home (sorted home ns) = sorted home ns := by
  have hforeign : foreign home (sorted home ns) = foreign home ns := by
    have hnative : (native home ns).filter (·.document != home) = [] :=
      List.filter_eq_nil_iff.mpr fun n hn => by simp [(mem_native.mp hn).2]
    have hself : (foreign home ns).filter (·.document != home) = foreign home ns :=
      List.filter_eq_self.mpr fun n hn => by simp [(mem_foreign.mp hn).2]
    rw [foreign, firsts_eq_self (nodup_sorted home ns), sorted_eq_append, List.filter_append,
      hnative, hself, List.nil_append]
  rw [sorted_eq_append, native_congr fun n _ => mem_sorted, hforeign, ← sorted_eq_append]

def union (s t : NodeSet) : NodeSet := ofList s.home (sorted s.home (s.nodes ++ t.nodes))

lemma union_nodes : (s.union t).nodes = sorted s.home (s.nodes ++ t.nodes) :=
  firsts_eq_self (nodup_sorted s.home _)

lemma mem_union : n ∈ (s.union t).nodes ↔ n ∈ s.nodes ∨ n ∈ t.nodes := by
  rw [union_nodes, mem_sorted, List.mem_append]

lemma add_set (lib : Library) (s t : NodeSet) (context : Value) :
    s.add lib (.set t) context = .ok (s.union t) := by
  have hset : (Value.set t).IsNodes lib := trivial
  have hnodes : (ofList s.home t.nodes).nodes = t.nodes := firsts_eq_self t.nodup
  rw [add_of_given hset.ne_none, hset.query_eq, Value.nodeSet, Except.map, hnodes, union]

lemma union_congr (hhome : s.home = s'.home)
    (hs : ∀ n ∈ (s'.union t').nodes, n.document = s'.home)
    (h : ∀ n, n ∈ (s.union t).nodes ↔ n ∈ (s'.union t').nodes) : s.union t = s'.union t' := by
  simp only [mem_union, ← List.mem_append] at hs h
  rw [union, union, hhome, sorted_congr hs h]

/-- Sorting is a canonical form. It lists the nodes of the document once each as they stand in the
tree, the root first, and after them the nodes of other documents as they first appear. Sorting
again changes nothing; for nodes of the document neither order nor repetitions matter, and so
unions of sets of them commute and associate. -/
theorem sorted_canonical (lib : Library) (home : Nat) (ns : List Node)
    (hns : ∀ n ∈ ns, lib.Holds n) :
    (∃ own others, sorted home ns = own ++ others ∧
      own.Sublist (Node.root home :: lib.preorder home) ∧
      (∀ n, n ∈ own ↔ n ∈ ns ∧ n.document = home) ∧
      others.Pairwise (fun m n => ns.idxOf m < ns.idxOf n) ∧
      ∀ n, n ∈ others ↔ n ∈ ns ∧ n.document ≠ home) ∧
    (sorted home ns).Nodup ∧ sorted home (sorted home ns) = sorted home ns ∧
    ((∀ n ∈ ns, n.document = home) →
      ∀ ms, (∀ n, n ∈ ms ↔ n ∈ ns) → sorted home ms = sorted home ns) ∧
    ∀ s t u : NodeSet, (∀ r ∈ [s, t, u], r.home = home ∧ ∀ n ∈ r.nodes, n.document = home) →
      ∀ context, ∃ st tu r,
        s.add lib (.set t) context = .ok st ∧ t.add lib (.set s) context = .ok st ∧
        t.add lib (.set u) context = .ok tu ∧
        st.add lib (.set u) context = .ok r ∧ s.add lib (.set tu) context = .ok r ∧
        st.nodes = sorted home (s.nodes ++ t.nodes) := by
  refine ⟨⟨native home ns, foreign home ns, rfl, native_sublist hns, fun n => mem_native,
    pairwise_foreign, fun n => mem_foreign⟩, nodup_sorted home ns, sorted_sorted home ns,
    fun hown ms hms => sorted_congr hown hms, fun s t u hsets context => ?_⟩
  simp only [List.forall_mem_cons, List.not_mem_nil, false_implies, implies_true, and_true] at hsets
  obtain ⟨⟨hs, hsown⟩, ⟨ht, htown⟩, -, huown⟩ := hsets
  have hcomm : t.union s = s.union t := by
    refine union_congr (ht.trans hs.symm) (fun n hn => ?_) fun n => by
      rw [mem_union, mem_union, or_comm]
    rw [hs]
    exact (mem_union.mp hn).elim (hsown n) (htown n)
  have hassoc : (s.union t).union u = s.union (t.union u) := by
    refine union_congr rfl (fun n hn => ?_) fun n => by
      simp only [mem_union, or_assoc]
    simp only [mem_union] at hn
    rw [hs]
    exact hn.elim (hsown n) fun h => h.elim (htown n) (huown n)
  refine ⟨s.union t, t.union u, (s.union t).union u, add_set .., ?_, add_set .., add_set .., ?_, ?_⟩
  · rw [add_set, hcomm]
  · rw [add_set, hassoc]
  · rw [union_nodes, hs]

theorem sorted_canonical_twins :
    let lib : Library := ⟨[⟨.html, [.element "p" [] [], .element "p" [] []]⟩,
      ⟨.html, [.element "p" [] [], .text "x"]⟩]⟩
    let ns : List Node := [⟨1, [1]⟩, ⟨0, [1]⟩, ⟨1, [0]⟩, ⟨0, []⟩, ⟨0, [0]⟩, ⟨0, [1]⟩, ⟨1, [1]⟩]
    (∀ n ∈ ns, lib.Holds n) ∧
    sorted 0 ns = [⟨0, []⟩, ⟨0, [0]⟩, ⟨0, [1]⟩, ⟨1, [1]⟩, ⟨1, [0]⟩] ∧
    sorted 0 (sorted 0 ns) = sorted 0 ns ∧
    sorted 0 [⟨0, [0]⟩, ⟨0, [1]⟩, ⟨0, [0]⟩] = sorted 0 [⟨0, [1]⟩, ⟨0, [0]⟩] ∧
    ∃ r, (ofList 0 [⟨0, [1]⟩]).add lib (.set (ofList 0 [⟨0, [0]⟩])) .none = .ok r ∧
      (ofList 0 [⟨0, [0]⟩]).add lib (.set (ofList 0 [⟨0, [1]⟩])) .none = .ok r := by
  intro lib ns
  have hns : ∀ n ∈ ns, lib.Holds n := by
    intro n hn
    simp only [ns, List.mem_cons, List.not_mem_nil, or_false] at hn
    rcases hn with rfl | rfl | rfl | rfl | rfl | rfl | rfl <;> rfl
  have hown : ∀ n ∈ [⟨0, [1]⟩, ⟨0, [0]⟩], n.document = 0 ∧ lib.Holds n := by
    intro n hn
    simp only [List.mem_cons, List.not_mem_nil, or_false] at hn
    rcases hn with rfl | rfl <;> exact ⟨rfl, rfl⟩
  obtain ⟨-, -, hagain, -⟩ := sorted_canonical lib 0 ns hns
  obtain ⟨-, -, -, hcongr, hadd⟩ := sorted_canonical lib 0 _ fun n hn => (hown n hn).2
  have hsorted : sorted 0 ns = [⟨0, []⟩, ⟨0, [0]⟩, ⟨0, [1]⟩, ⟨1, [1]⟩, ⟨1, [0]⟩] := by
    simp [ns, sorted, firsts, List.mergeSort, List.cons_merge_cons, Node.pathLe]
  have hlist : sorted 0 [⟨0, [0]⟩, ⟨0, [1]⟩, ⟨0, [0]⟩] = sorted 0 [⟨0, [1]⟩, ⟨0, [0]⟩] :=
    hcongr (fun n hn => (hown n hn).1) _ fun n => by simp; tauto
  refine ⟨hns, hsorted, hagain, hlist, ?_⟩
  obtain ⟨st, -, -, hst, hts, -⟩ :=
    hadd (ofList 0 [⟨0, [1]⟩]) (ofList 0 [⟨0, [0]⟩]) (empty 0) (by decide) .none
  exact ⟨st, hst, hts⟩

end NodeSet

end MarkupQuery
