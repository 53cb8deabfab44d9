import MarkupQuery.Json.Value

namespace MarkupQuery

variable {α : Type}

theorem mem_keys_assign (key k : String) (value : α) (members : List (String × α)) :
    k ∈ (assign key value members).map (·.1) ↔ k = key ∨ k ∈ members.map (·.1) := by
  induction members with
  | nil => simp [assign]
  | cons m members ih =>
    obtain ⟨k', v⟩ := m
    by_cases h : k' = key
    · subst h
      simp [assign]
    · simp only [assign, h, ↓reduceIte, List.map_cons, List.mem_cons, ih]
      constructor
      · rintro (rfl | rfl | h)
        · exact .inr (.inl rfl)
        · exact .inl rfl
        · exact .inr (.inr h)
      · rintro (rfl | rfl | h)
        · exact .inr (.inl rfl)
        · exact .inl rfl
        · exact .inr (.inr h)

theorem nodup_keys_assign (key : String) (value : α) (members : List (String × α))
    (h : (members.map (·.1)).Nodup) : ((assign key value members).map (·.1)).Nodup := by
  induction members with
  | nil => simp [assign]
  | cons m members ih =>
    obtain ⟨k, v⟩ := m
    obtain ⟨hk, hs⟩ := List.nodup_cons.mp h
    by_cases e : k = key
    · have hsame : (assign key value ((k, v) :: members)).map (·.1) =
          ((k, v) :: members).map (·.1) := by simp [assign, e]
      exact hsame ▸ h
    · rw [assign, if_neg e, List.map_cons, List.nodup_cons, mem_keys_assign]
      exact ⟨fun hm => hm.elim e hk, ih hs⟩

def settled (members : List (String × α)) : List (String × α) :=
  members.foldl (fun settled m => assign m.1 m.2 settled) []

theorem nodup_keys_foldl_assign (members settled : List (String × α))
    (h : (settled.map (·.1)).Nodup) :
    ((members.foldl (fun settled m => assign m.1 m.2 settled) settled).map (·.1)).Nodup := by
  induction members generalizing settled with
  | nil => exact h
  | cons m members ih => exact ih _ (nodup_keys_assign m.1 m.2 settled h)

theorem nodup_keys_settled (members : List (String × α)) :
    ((settled members).map (·.1)).Nodup :=
  nodup_keys_foldl_assign members [] List.nodup_nil

end MarkupQuery
