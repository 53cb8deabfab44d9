import Mathlib.Data.List.Sort
import Mathlib.Data.List.Lex
import MarkupQuery.Nodes.Query
import MarkupQuery.Proofs.Css.Yields
import MarkupQuery.Proofs.Nodes.Membership

/-! Document order: all nodes below a root in preorder. Sorting and CSS queries yield parts of
this sequence. -/

namespace MarkupQuery

open Markup

namespace Markup.Tree

mutual

def pathsTo (p : Tree → Bool) : Tree → List (List Nat)
  | .element _ _ cs => pathsToEach p 0 cs
  | _ => []

def pathsToEach (p : Tree → Bool) (i : Nat) : List Tree → List (List Nat)
  | [] => []
  | t :: ts =>
    (if p t then [[i]] else []) ++ (pathsTo p t).map (i :: ·) ++ pathsToEach p (i + 1) ts

end

variable {p : Tree → Bool} {t : Tree} {ts : List Tree} {i : Nat} {q r : List Nat}

lemma descend_append : t.descend (q ++ r) = (t.descend q).bind (·.descend r) := by
  fun_induction descend t q with
  | case1 t => rfl
  | case2 t i q h => simp [descend, h]
  | case3 t i q child h ih => simp [descend, h, ih]

lemma mem_pathsToEach (hts : ∀ t ∈ ts, ∀ q, q ∈ pathsTo p t ↔ q ≠ [] ∧ (t.descend q).any p) :
    q ∈ pathsToEach p i ts ↔
      ∃ k r t, q = (i + k) :: r ∧ ts[k]? = some t ∧ (t.descend r).any p := by
  induction ts generalizing i with
  | nil => simp [pathsToEach]
  | cons t ts ih =>
    have ht := hts t List.mem_cons_self
    have ih := @ih (i + 1) fun u hu => hts u (List.mem_cons_of_mem t hu)
    have hhead : q ∈ (if p t then [[i]] else []) ++ (pathsTo p t).map (i :: ·) ↔
        ∃ r, q = i :: r ∧ (t.descend r).any p := by
      simp only [List.mem_append, List.mem_map, ht]
      constructor
      · rintro (hq | ⟨r, ⟨-, hr⟩, rfl⟩)
        · split at hq
          · next hp => exact ⟨[], List.mem_singleton.mp hq, by simpa [descend] using hp⟩
          · cases hq
        · exact ⟨r, rfl, hr⟩
      · rintro ⟨r, rfl, hr⟩
        cases r with
        | nil =>
          have hp : p t = true := by simpa [descend] using hr
          simp [hp]
        | cons j r => exact .inr ⟨j :: r, ⟨nofun, hr⟩, rfl⟩
    rw [pathsToEach, List.mem_append, hhead, ih]
    constructor
    · rintro (⟨r, rfl, hr⟩ | ⟨k, r, u, rfl, hu, hr⟩)
      · exact ⟨0, r, t, rfl, rfl, hr⟩
      · exact ⟨k + 1, r, u, by rw [Nat.add_right_comm, Nat.add_assoc], hu, hr⟩
    · rintro ⟨k, r, u, rfl, hu, hr⟩
      cases k with
      | zero =>
        obtain rfl : t = u := Option.some.inj hu
        exact .inl ⟨r, rfl, hr⟩
      | succ k => exact .inr ⟨k, r, u, by rw [Nat.add_right_comm, Nat.add_assoc], hu, hr⟩

@[elab_as_elim]
lemma children_induction {P : Tree → Prop} (t : Tree)
    (step : ∀ t : Tree, (∀ c ∈ t.children, P c) → P t) : P t :=
  match t with
  | .element _ _ _ => step _ fun c _ => children_induction c step
  | .text _ | .comment _ | .doctype _ | .instruction _ => step _ nofun
termination_by sizeOf t
decreasing_by
  have hc : sizeOf c < sizeOf (children _) := List.sizeOf_lt_of_mem ‹_›
  simp only [children] at hc
  simp only [element.sizeOf_spec]
  omega

lemma pathsTo_eq : pathsTo p t = pathsToEach p 0 t.children := by
  cases t <;> simp [pathsTo, children, pathsToEach]

lemma mem_pathsTo : q ∈ pathsTo p t ↔ q ≠ [] ∧ (t.descend q).any p := by
  induction t using children_induction generalizing q with
  | step t ih =>
    rw [pathsTo_eq, mem_pathsToEach fun c hc q => ih c hc]
    constructor
    · rintro ⟨k, r, c, rfl, hc, hr⟩
      exact ⟨nofun, by simpa [descend, hc] using hr⟩
    · rintro ⟨hq, hr⟩
      cases q with
      | nil => exact absurd rfl hq
      | cons k r =>
        cases hc : t.children[k]? with
        | none => simp [descend, hc] at hr
        | some c => exact ⟨k, r, c, by rw [Nat.zero_add], hc, by simpa [descend, hc] using hr⟩

lemma pairwise_pathsToEach (hts : ∀ t ∈ ts, (pathsTo p t).Pairwise (· < ·)) :
    (pathsToEach p i ts).Pairwise (· < ·) := by
  induction ts generalizing i with
  | nil => exact List.Pairwise.nil
  | cons t ts ih =>
    have hrest := @ih (i + 1) fun u hu => hts u (List.mem_cons_of_mem t hu)
    have hbelow : ((pathsTo p t).map (i :: ·)).Pairwise (· < ·) := by
      refine List.pairwise_map.mpr ((hts t List.mem_cons_self).imp fun h => ?_)
      exact List.cons_lt_cons_iff.mpr (.inr ⟨rfl, h⟩)
    rw [pathsToEach, List.pairwise_append, List.pairwise_append]
    refine ⟨⟨?_, hbelow, ?_⟩, hrest, ?_⟩
    · split
      · exact List.pairwise_singleton _ _
      · exact List.Pairwise.nil
    · intro q hq r hr
      obtain ⟨r, hbelow, rfl⟩ := List.mem_map.mp hr
      obtain rfl : q = [i] := by
        split at hq
        · exact List.mem_singleton.mp hq
        · cases hq
      obtain ⟨j, r, rfl⟩ := List.exists_cons_of_ne_nil (mem_pathsTo.mp hbelow).1
      exact List.cons_lt_cons_iff.mpr (.inr ⟨rfl, List.nil_lt_cons j r⟩)
    · intro q hq r hr
      obtain ⟨q, rfl⟩ : ∃ q', q = i :: q' := by
        rcases List.mem_append.mp hq with hq | hq
        · split at hq
          · exact ⟨[], List.mem_singleton.mp hq⟩
          · cases hq
        · obtain ⟨q, -, rfl⟩ := List.mem_map.mp hq
          exact ⟨q, rfl⟩
      obtain ⟨k, r, c, rfl, -, -⟩ := (mem_pathsToEach fun _ _ _ => mem_pathsTo).mp hr
      exact List.cons_lt_cons_iff.mpr (.inl (by omega))

lemma pairwise_pathsTo : (pathsTo p t).Pairwise (· < ·) := by
  induction t using children_induction with
  | step t ih =>
    rw [pathsTo_eq]
    exact pairwise_pathsToEach ih

end Markup.Tree

namespace Node

lemma pathLe_iff {p q : List Nat} : pathLe p q = true ↔ p = q ∨ p < q := by
  induction p generalizing q with
  | nil => cases q <;> simp [pathLe]
  | cons i p ih =>
    cases q with
    | nil => simp [pathLe]
    | cons j q =>
      simp only [pathLe, Bool.or_eq_true, Bool.and_eq_true, decide_eq_true_eq, beq_iff_eq, ih,
        List.cons.injEq, List.cons_lt_cons_iff]
      tauto

lemma pathLe_trans {p q r : List Nat} (hpq : pathLe p q = true) (hqr : pathLe q r = true) :
    pathLe p r = true := by
  rw [pathLe_iff] at hpq hqr ⊢
  rcases hpq with rfl | hpq
  · exact hqr
  · rcases hqr with rfl | hqr
    · exact .inr hpq
    · exact .inr (lt_trans hpq hqr)

lemma pathLe_total (p q : List Nat) : (pathLe p q || pathLe q p) = true := by
  rw [Bool.or_eq_true, pathLe_iff, pathLe_iff]
  rcases lt_trichotomy p q with h | h | h
  · exact .inl (.inr h)
  · exact .inl (.inl h)
  · exact .inr (.inr h)

lemma eq_of_path {m n : Node} (hdoc : m.document = n.document) (hpath : m.path = n.path) :
    m = n := by
  obtain ⟨d, p⟩ := m
  obtain ⟨e, q⟩ := n
  exact congrArg₂ Node.mk hdoc hpath

def Before (m n : Node) : Prop := m.document = n.document ∧ m.path < n.path

lemma Before.asymm {m n : Node} (h : m.Before n) : ¬ n.Before m := fun h' => lt_asymm h.2 h'.2

lemma child_path_ne_nil {n : Node} {i : Nat} : (n.child i).path ≠ [] := by
  simp [child]

end Node

lemma sublist_of_pairwise {α : Type} {R : α → α → Prop} {as bs : List α}
    (hR : ∀ a b, R a b → ¬ R b a) (hsub : as ⊆ bs) (has : as.Pairwise R) (hbs : bs.Pairwise R) :
    as.Sublist bs := by
  have : Std.Antisymm R := ⟨fun a b h h' => absurd h' (hR a b h)⟩
  have hnodup : as.Nodup := has.imp fun h he => by
    subst he
    exact hR _ _ h h
  exact List.sublist_of_subperm_of_pairwise (List.subperm_of_subset hnodup hsub) has hbs

lemma eq_of_pairwise {α : Type} {R : α → α → Prop} {as bs : List α} (hR : ∀ a b, R a b → ¬ R b a)
    (has : as.Pairwise R) (hbs : bs.Pairwise R) (h : ∀ a, a ∈ as ↔ a ∈ bs) : as = bs := by
  have : Std.Antisymm R := ⟨fun a b h h' => absurd h' (hR a b h)⟩
  have hnodup {cs : List α} (hcs : cs.Pairwise R) : cs.Nodup := hcs.imp fun h he => by
    subst he
    exact hR _ _ h h
  have hperm : as.Perm bs := (List.perm_ext_iff_of_nodup (hnodup has) (hnodup hbs)).mpr h
  exact hperm.eq_of_pairwise' has hbs

namespace Library

variable (lib : Library) (home : Nat)

lemma elementPaths_eq (path : List Nat) (t : Tree) :
    elementPaths path t = (t.pathsTo Tree.isElement).map (path ++ ·) := by
  induction t using Tree.children_induction generalizing path with
  | step t ih =>
    have heach (i : Nat) (ts : List Tree) (hts : ts ⊆ t.children) : elementPathsOf path i ts =
        (Tree.pathsToEach Tree.isElement i ts).map (path ++ ·) := by
      induction ts generalizing i with
      | nil => rfl
      | cons u ts ihs =>
        obtain ⟨hu, hts⟩ := List.cons_subset.mp hts
        rw [elementPathsOf, Tree.pathsToEach, ih u hu, ihs (i + 1) hts]
        by_cases he : u.isElement <;> simp [he, Function.comp_def]
    rw [Tree.pathsTo_eq, ← heach 0 t.children (List.Subset.refl _)]
    cases t <;> rfl

def preorder : List Node :=
  match lib.document? home with
  | some doc => (doc.root.pathsTo fun _ => true).map (⟨home, ·⟩)
  | none => []

variable {lib home} {m n : Node}

lemma mem_preorder : n ∈ lib.preorder home ↔ n.document = home ∧ n.path ≠ [] ∧ lib.Holds n := by
  obtain ⟨document, path⟩ := n
  rw [preorder, Holds, tree?]
  by_cases hd : document = home
  · subst hd
    cases lib.document? document with
    | none => simp
    | some doc => simp [Tree.mem_pathsTo, Option.isSome_iff_exists]
  · cases lib.document? home <;> simp [hd, Ne.symm hd]

lemma pairwise_preorder : (lib.preorder home).Pairwise Node.Before := by
  rw [preorder]
  split
  · exact List.pairwise_map.mpr (Tree.pairwise_pathsTo.imp fun h => ⟨rfl, h⟩)
  · exact List.Pairwise.nil

lemma sublist_preorder {ns : List Node} (hns : ns ⊆ lib.preorder home)
    (horder : ns.Pairwise Node.Before) : ns.Sublist (lib.preorder home) :=
  sublist_of_pairwise (fun _ _ h => h.asymm) hns horder pairwise_preorder

lemma holds_of_isTag (h : lib.isTag n) : lib.Holds n := by
  rw [isTag] at h
  rw [Holds]
  cases ht : lib.tree? n with
  | none => simp [ht] at h
  | some t => rfl

lemma holds_of_isElement (h : lib.isElement n) : n.path ≠ [] ∧ lib.Holds n := by
  obtain ⟨hroot, htag⟩ := Bool.and_eq_true_iff.mp h
  exact ⟨by simpa [Node.isRoot] using hroot, holds_of_isTag htag⟩

lemma mem_preorder_of_isElement (hd : m.document = home) (h : lib.isElement m) :
    m ∈ lib.preorder home :=
  mem_preorder.mpr ⟨hd, holds_of_isElement h⟩

lemma tree?_append {r : List Nat} : lib.tree? ⟨n.document, n.path ++ r⟩ =
    (lib.tree? n).bind fun t => t.descend r := by
  simp only [tree?]
  split
  · exact Tree.descend_append
  · rfl

lemma tree?_child {i : Nat} :
    lib.tree? (n.child i) = (lib.tree? n).bind fun t => t.children[i]? := by
  rw [Node.child, tree?_append]
  cases lib.tree? n with
  | none => rfl
  | some t =>
    simp only [Option.bind_some, Tree.descend]
    cases t.children[i]? <;> rfl

lemma mem_childNodes : m ∈ lib.childNodes n ↔ ∃ i < lib.childCount n, m = n.child i := by
  simp [childNodes, eq_comm]

lemma holds_of_mem_childNodes (h : m ∈ lib.childNodes n) :
    m.document = n.document ∧ m.path ≠ [] ∧ lib.Holds m := by
  obtain ⟨i, hi, rfl⟩ := mem_childNodes.mp h
  refine ⟨rfl, Node.child_path_ne_nil, ?_⟩
  rw [Holds, tree?_child]
  rw [childCount] at hi
  cases ht : lib.tree? n with
  | none => simp [ht] at hi
  | some t =>
    rw [ht] at hi
    simp [hi]

lemma isElement_of_childNode (h : m ∈ lib.childNodes n) (htag : lib.isTag m) : lib.isElement m := by
  have hne := (holds_of_mem_childNodes h).2.1
  simp [isElement, Node.isRoot, hne, htag]

lemma mem_descendantElements : m ∈ lib.descendantElements n ↔
    m.document = n.document ∧ (∃ r, r ≠ [] ∧ m.path = n.path ++ r) ∧ lib.isTag m := by
  obtain ⟨document, path⟩ := m
  rw [descendantElements]
  cases ht : lib.tree? n with
  | none =>
    simp only [List.not_mem_nil, false_iff]
    rintro ⟨rfl, ⟨r, -, rfl⟩, htag⟩
    simp [isTag, tree?_append, ht] at htag
  | some t =>
    simp only [elementPaths_eq, List.map_map, List.mem_map, Tree.mem_pathsTo]
    constructor
    · rintro ⟨r, ⟨hr, he⟩, heq⟩
      obtain ⟨rfl, rfl⟩ := Node.mk.injEq .. ▸ heq
      refine ⟨rfl, ⟨r, hr, rfl⟩, ?_⟩
      rw [isTag, tree?_append, ht, Option.bind_some]
      cases hd : t.descend r with
      | none => simp [hd] at he
      | some u => simpa [hd] using he
    · rintro ⟨rfl, ⟨r, hr, rfl⟩, htag⟩
      refine ⟨r, ⟨hr, ?_⟩, rfl⟩
      rw [isTag, tree?_append, ht, Option.bind_some] at htag
      cases hd : t.descend r with
      | none => simp [hd] at htag
      | some u => simpa [hd] using htag

lemma pairwise_descendantElements : (lib.descendantElements n).Pairwise Node.Before := by
  rw [descendantElements]
  split
  · next t _ =>
    rw [elementPaths_eq, List.map_map, List.pairwise_map]
    exact Tree.pairwise_pathsTo.imp fun h => ⟨rfl, List.append_left_lt h⟩
  · exact List.Pairwise.nil

lemma isElement_of_mem_descendantElements (h : m ∈ lib.descendantElements n) :
    m.document = n.document ∧ lib.isElement m := by
  obtain ⟨hd, ⟨r, hr, hm⟩, htag⟩ := mem_descendantElements.mp h
  exact ⟨hd, by simp [isElement, Node.isRoot, hm, hr, htag]⟩

end Library

namespace Library

variable {lib : Library} {n : Node} {css : String} {found : List Node}

lemma select_sublist (h : lib.select n css = .ok found) :
    found.Sublist (lib.descendantElements n) := by
  obtain ⟨s, -, rfl⟩ := exists_of_map h
  exact Css.select_sublist lib s n

end Library

namespace NodeSet

variable {lib : Library} {home : Nat} {ns : List Node}

lemma pairwise_mergeSort_path (ns : List Node) :
    (ns.mergeSort fun m n => Node.pathLe m.path n.path).Pairwise
      fun m n => Node.pathLe m.path n.path = true := by
  apply List.pairwise_mergeSort
  · intro a b c
    exact Node.pathLe_trans
  · intro a b
    exact Node.pathLe_total a.path b.path

lemma pairwise_before_mergeSort (hnodup : ns.Nodup) (h : ∀ n ∈ ns, n.document = home) :
    (ns.mergeSort fun m n => Node.pathLe m.path n.path).Pairwise Node.Before := by
  have hnodup' : (ns.mergeSort fun m n => Node.pathLe m.path n.path).Nodup :=
    (List.mergeSort_perm _ _).nodup_iff.mpr hnodup
  refine ((pairwise_mergeSort_path ns).and hnodup').imp_of_mem fun {m n} hm hn hmn => ?_
  have hdoc : m.document = n.document := by
    rw [h m (List.mem_mergeSort.mp hm), h n (List.mem_mergeSort.mp hn)]
  exact ⟨hdoc,
    (Node.pathLe_iff.mp hmn.1).resolve_left fun hpath => hmn.2 (Node.eq_of_path hdoc hpath)⟩

lemma sorted_sublist_preorder (hns : ns ⊆ lib.preorder home) :
    (sorted home ns).Sublist (lib.preorder home) := by
  refine Library.sublist_preorder (fun n hn => hns (mem_sorted.mp hn)) ?_
  have hhome : ∀ n ∈ firsts ns, n.document = home := fun n hn =>
    (Library.mem_preorder.mp (hns (mem_firsts.mp hn))).1
  have hall : (firsts ns).filter (·.document == home) = firsts ns :=
    List.filter_eq_self.mpr fun n hn => by simpa using hhome n hn
  have hnone : (firsts ns).filter (·.document != home) = [] :=
    List.filter_eq_nil_iff.mpr fun n hn => by simpa using hhome n hn
  rw [sorted, hall, hnone, List.append_nil]
  exact pairwise_before_mergeSort (nodup_firsts ns) hhome

end NodeSet

end MarkupQuery
