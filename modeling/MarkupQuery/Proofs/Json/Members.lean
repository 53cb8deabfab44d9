import Mathlib.Data.List.Nodup
import Mathlib.Tactic.Lemma
import MarkupQuery.Json.Members

namespace MarkupQuery

variable {α : Type} {key : String} {value : α} {ms done : List (String × α)}

lemma assign_of_notMem (h : key ∉ ms.map (·.1)) : assign key value ms = ms ++ [(key, value)] := by
  induction ms with
  | nil => rfl
  | cons m ms ih =>
    obtain ⟨k, v⟩ := m
    obtain ⟨hk, hms⟩ := not_or.mp (mt List.mem_cons.mpr h)
    rw [assign, if_neg (Ne.symm hk), ih hms, List.cons_append]

lemma assign_of_nodup_append (h : ((done ++ (key, value) :: ms).map (·.1)).Nodup) :
    assign key value done = done ++ [(key, value)] := by
  refine assign_of_notMem fun hmem => ?_
  rw [List.map_append, List.nodup_append'] at h
  exact h.2.2 hmem List.mem_cons_self

lemma foldl_assign_eq_append (h : ((done ++ ms).map (·.1)).Nodup) :
    ms.foldl (fun settled m => assign m.1 m.2 settled) done = done ++ ms := by
  induction ms generalizing done with
  | nil => exact (List.append_nil done).symm
  | cons m ms ih =>
    rw [List.foldl_cons, assign_of_nodup_append h, ih (by simpa using h), List.append_assoc]
    rfl

lemma settled_eq_self (h : (ms.map (·.1)).Nodup) : settled ms = ms :=
  foldl_assign_eq_append (by exact h)

lemma lookup_assign_self (key : String) (value : α) (ms : List (String × α)) :
    (assign key value ms).lookup key = some value := by
  induction ms with
  | nil => simp [assign]
  | cons m ms ih =>
    obtain ⟨k, v⟩ := m
    rw [assign]
    split
    · next hk => rw [hk, List.lookup_cons_self]
    · next hk => rw [List.lookup_cons, beq_false_of_ne (Ne.symm hk), ih]

lemma lookup_filter {p : String → Bool} (hkey : p key = true) :
    (ms.filter fun m => p m.1).lookup key = ms.lookup key := by
  induction ms with
  | nil => rfl
  | cons m ms ih =>
    obtain ⟨k, v⟩ := m
    rw [List.filter_cons, List.lookup_cons]
    cases hk : p k with
    | true => rw [if_pos rfl, List.lookup_cons, ih]
    | false =>
      have hne : (key == k) = false := beq_false_of_ne fun he => by simp [he, hk] at hkey
      rw [hne, if_neg Bool.false_ne_true, ih]

lemma exists_lookup_iff : (∃ v, ms.lookup key = some v) ↔ key ∈ ms.map (·.1) := by
  rw [← Option.ne_none_iff_exists', ne_eq, List.lookup_eq_none_iff]
  simp

end MarkupQuery
