import MarkupQuery.Proofs.Nodes.Home

namespace MarkupQuery.NodeSet

variable {α : Type} {lib : Library} {s : NodeSet} {v w : Value} {as : List α} {a : α} {i j : Int}
  {size k m n : Nat}

def fromStart (size : Nat) (i : Int) : Int := if i < 0 then i + size else i

def stretch (start : Int) (stop : Option Int) (as : List α) : List α :=
  (as.zipIdx.filter fun p => fromStart as.length start ≤ p.2 ∧
    ∀ j ∈ stop, (p.2 : Int) < fromStart as.length j).map (·.1)

lemma bound_le_iff (hk : k < size) : bound size i ≤ k ↔ fromStart size i ≤ k := by
  rw [bound, fromStart]
  split
  · omega
  · rw [show Nat.min i.toNat size = min i.toNat size from rfl]
    omega

lemma lt_bound_iff (hk : k < size) : k < bound size i ↔ (k : Int) < fromStart size i := by
  rw [← Nat.not_le, bound_le_iff hk, Int.not_le]

lemma place?_eq_some_iff : place? size i = some k ↔ k < size ∧ fromStart size i = k := by
  rw [place?, ← fromStart]
  split
  · simp only [Option.some.injEq]
    omega
  · simp only [reduceCtorEq, false_iff]
    omega

lemma place?_eq_none (h : i < -(size : Int) ∨ size ≤ i) : place? size i = none := by
  refine Option.eq_none_iff_forall_ne_some.mpr fun k hk => ?_
  obtain ⟨hlt, hfrom⟩ := place?_eq_some_iff.mp hk
  rw [fromStart] at hfrom
  split at hfrom <;> omega

lemma take_drop_eq_filter (m n : Nat) (as : List α) :
    (as.take n).drop m = (as.zipIdx.filter fun p => m ≤ p.2 ∧ p.2 < n).map (·.1) := by
  induction as generalizing m n with
  | nil => simp
  | cons a as ih =>
    have hrest : ((as.zipIdx 1).filter fun p => m ≤ p.2 ∧ p.2 < n).map (·.1) =
        (as.take (n - 1)).drop (m - 1) := by
      rw [ih, List.zipIdx_succ, List.filter_map, List.map_map]
      congr 1
      refine List.filter_congr fun p _ => ?_
      simp only [Function.comp_apply, decide_eq_decide]
      omega
    rw [List.zipIdx_cons, List.filter_cons, Nat.zero_add]
    cases n with
    | zero =>
      rw [if_neg (by simp), hrest]
      simp
    | succ n =>
      cases m with
      | zero =>
        rw [if_pos (by simp), List.map_cons, hrest]
        rfl
      | succ m =>
        rw [if_neg (by simp), hrest]
        rfl

lemma between_eq_stretch (start : Int) (stop : Option Int) (as : List α) :
    between (some start) stop as = stretch start stop as := by
  rw [between, take_drop_eq_filter, stretch]
  congr 1
  refine List.filter_congr fun p hp => ?_
  have hlt : p.2 < as.length := List.snd_lt_of_mem_zipIdx hp
  cases stop with
  | none => simp [hlt, bound_le_iff hlt]
  | some j => simp [bound_le_iff hlt, lt_bound_iff hlt]

lemma stretch_append_stretch (i : Int) (as : List α) :
    stretch 0 (some i) as ++ stretch i none as = as := by
  rw [← between_eq_stretch, ← between_eq_stretch, between, between]
  simp [bound]

lemma stretch_sublist (start : Int) (stop : Option Int) (as : List α) :
    (stretch start stop as).Sublist as := by
  rw [← between_eq_stretch]
  exact (List.drop_sublist _ _).trans (List.take_sublist _ _)

def atIndex (s : NodeSet) (i : Int) : NodeSet :=
  .ofList s.home ((place? s.size i).bind (s.nodes[·]?)).toList

lemma nodes_atIndex (hk : k < s.nodes.length) (hi : i = k ∨ i = k - s.nodes.length) :
    (s.atIndex i).nodes = [s.nodes[k]] := by
  have hplace : place? s.size i = some k := by
    refine place?_eq_some_iff.mpr ⟨hk, ?_⟩
    rw [fromStart, size]
    split <;> omega
  have hmember : (place? s.size i).bind (s.nodes[·]?) = some s.nodes[k] := by
    rw [hplace, Option.bind_some, List.getElem?_eq_getElem hk]
  rw [atIndex, hmember]
  rfl

lemma nodes_atIndex_of_outside (hi : i < -(s.size : Int) ∨ s.size ≤ i) :
    (s.atIndex i).nodes = [] := by
  rw [atIndex, place?_eq_none hi]
  rfl

lemma first_eq_atIndex (s : NodeSet) : s.first = s.atIndex 0 := by
  rw [first, atIndex, List.take_one, List.head?_eq_getElem?]
  by_cases hs : s.nodes.length = 0
  · rw [place?_eq_none (by rw [size]; omega), List.length_eq_zero_iff.mp hs]
    rfl
  · have hplace : place? s.size 0 = some 0 :=
      place?_eq_some_iff.mpr ⟨Nat.pos_of_ne_zero hs, rfl⟩
    rw [hplace]
    rfl

lemma last_eq_atIndex (s : NodeSet) : s.last = s.atIndex (-1) := by
  rw [last, atIndex, List.getLast?_eq_getElem?]
  by_cases hs : s.nodes.length = 0
  · rw [place?_eq_none (by rw [size]; omega), List.length_eq_zero_iff.mp hs]
    rfl
  · have hplace : place? s.size (-1) = some (s.nodes.length - 1) := by
      rw [place?_eq_some_iff, fromStart, size, if_pos (by decide)]
      omega
    rw [hplace]
    rfl

lemma eq_of_index (h : v.index? lib none = .ok (some i)) : s.eq lib v = .ok (s.atIndex i) := by
  rw [eq, h]
  rfl

lemma slice_of_index {stop : Option Int} (hv : v.index? lib (some 0) = .ok (some i))
    (hw : w.index? lib (some 0) = .ok stop) :
    s.slice lib v w = .ok (.ofList s.home (stretch i stop s.nodes)) := by
  rw [slice, hv, hw, ← between_eq_stretch]
  rfl

lemma nodes_ofList_stretch (s : NodeSet) (start : Int) (stop : Option Int) (home : Nat) :
    (ofList home (stretch start stop s.nodes)).nodes = stretch start stop s.nodes :=
  firsts_eq_self (s.nodup.sublist (stretch_sublist start stop s.nodes))

end MarkupQuery.NodeSet
