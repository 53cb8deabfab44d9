import Mathlib.Tactic.Lemma
import MarkupQuery.Css.Matching

namespace MarkupQuery.Css

variable {α β : Type} {x : StateM Memory α} {a b : α} {test : Node → StateM Memory Bool}
  {p : Node → Bool} {ns : List Node} {n : Node} {memory : Memory}

-- What is remembered may change, but not the answer.
def Yields (x : StateM Memory α) (a : α) : Prop := ∀ memory, (x.run memory).1 = a

namespace Yields

lemma of_pure (a : α) : Yields (pure a) a := fun _ => rfl

lemma unique (ha : Yields x a) (hb : Yields x b) : a = b := (ha .empty).symm.trans (hb .empty)

lemma bind {f : α → StateM Memory β} {b : β} (hx : Yields x a) (hf : Yields (f a) b) :
    Yields (x >>= f) b := by
  intro memory
  rw [StateT.run_bind]
  change ((f (x.run memory).1).run (x.run memory).2).1 = b
  rw [hx]
  exact hf _

lemma map (hx : Yields x a) (f : α → β) : Yields (do return f (← x)) (f a) :=
  hx.bind (.of_pure _)

lemma anyM (h : ∀ m ∈ ns, Yields (test m) (p m)) : Yields (ns.anyM test) (ns.any p) := by
  induction ns with
  | nil => exact .of_pure false
  | cons n ns ih =>
    obtain ⟨hn, hns⟩ := List.forall_mem_cons.mp h
    rw [List.any_cons]
    refine hn.bind ?_
    cases p n with
    | true => exact .of_pure true
    | false => exact ih hns

lemma keepM (h : ∀ m ∈ ns, Yields (test m) (p m)) : Yields (keepM test ns) (ns.filter p) := by
  induction ns with
  | nil => exact .of_pure []
  | cons n ns ih =>
    obtain ⟨hn, hns⟩ := List.forall_mem_cons.mp h
    rw [List.filter_cons]
    exact hn.bind ((ih hns).map _)

end Yields

lemma run_keepM_cons (test : Node → StateM Memory Bool) (n : Node) (ns : List Node)
    (memory : Memory) : ((keepM test (n :: ns)).run memory).1 =
      if ((test n).run memory).1 then n :: ((keepM test ns).run ((test n).run memory).2).1
      else ((keepM test ns).run ((test n).run memory).2).1 := rfl

lemma keepM_sublist (test : Node → StateM Memory Bool) (ns : List Node) (memory : Memory) :
    ((keepM test ns).run memory).1.Sublist ns := by
  induction ns generalizing memory with
  | nil => exact List.Sublist.refl _
  | cons n ns ih =>
    rw [run_keepM_cons]
    split
    · exact (ih _).cons_cons n
    · exact (ih _).cons n

lemma exists_of_mem_keepM (h : n ∈ ((keepM test ns).run memory).1) :
    ∃ memory', ((test n).run memory').1 = true := by
  induction ns generalizing memory with
  | nil => cases h
  | cons m ns ih =>
    rw [run_keepM_cons] at h
    split at h
    · next hfound =>
      rcases List.mem_cons.mp h with rfl | h
      · exact ⟨memory, hfound⟩
      · exact ih h
    · exact ih h

lemma select_sublist (lib : Library) (s : Selector) (n : Node) :
    (select lib s n).Sublist (lib.descendantElements n) :=
  keepM_sublist _ _ _

lemma select_eq_filter {lib : Library} {s : Selector}
    (h : ∀ m ∈ lib.descendantElements n,
      Yields (anyAccepts lib ⟨scopeOf lib n, prefixesAt lib n, false⟩ s m) (p m)) :
    select lib s n = (lib.descendantElements n).filter p :=
  Yields.keepM h .empty

end MarkupQuery.Css
