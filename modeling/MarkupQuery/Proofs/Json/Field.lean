import Mathlib.Data.Set.List
import Mathlib.Tactic.Lemma
import MarkupQuery.Json.Field

namespace MarkupQuery.Json

variable {location : List Key} {v : Json} {s : String} {ts : List String}
  {fs : List (String × String)}

namespace Checked

variable {α β : Type}

lemma and_eq_ok_iff {a : Checked α} {b : Checked β} {p : α × β} :
    a.and b = .ok p ↔ a = .ok p.1 ∧ b = .ok p.2 := by
  cases a <;> cases b <;> simp [Checked.and, Prod.ext_iff]

lemma map_eq_ok_iff {r : Checked α} {f : α → β} {b : β} :
    Except.map f r = .ok b ↔ ∃ a, r = .ok a ∧ f a = b := by
  cases r <;> simp [Except.map]

lemma fault_eq_ok_iff {r : Checked α} {a : α} : r.fault = .ok a ↔ r = .ok a := by
  cases r <;> simp [Checked.fault]

end Checked

lemma textAt_eq_ok_iff : textAt location v = .ok s ↔ v = .text s := by
  cases v <;> simp [textAt, Checked.issue]

lemma itemsAt_eq_ok_iff {i : Nat} {us : List Json} :
    itemsAt location i us = .ok ts ↔ us = ts.map text := by
  induction us generalizing i ts with
  | nil => cases ts <;> simp [itemsAt]
  | cons u us ih =>
    rw [itemsAt, Checked.map_eq_ok_iff]
    constructor
    · rintro ⟨⟨t, ts⟩, h, rfl⟩
      obtain ⟨hu, hus⟩ := Checked.and_eq_ok_iff.mp h
      rw [textAt_eq_ok_iff.mp hu, ih.mp hus, List.map_cons]
    · intro h
      cases ts with
      | nil => cases h
      | cons t ts =>
        obtain ⟨hu, hus⟩ := List.cons.inj h
        refine ⟨(t, ts), ?_, rfl⟩
        exact Checked.and_eq_ok_iff.mpr ⟨textAt_eq_ok_iff.mpr hu, ih.mpr hus⟩

lemma textsAt_eq_ok_iff : textsAt location v = .ok ts ↔ v = .ofTexts ts := by
  cases v with
  | list us => rw [textsAt, itemsAt_eq_ok_iff, ofTexts, list.injEq]
  | _ => simp [textsAt, ofTexts, Checked.issue]

lemma membersAt_eq_ok_iff {ms : List (String × Json)} :
    membersAt location ms = .ok fs ↔ ms = fs.map fun f => (f.1, text f.2) := by
  induction ms generalizing fs with
  | nil => cases fs <;> simp [membersAt]
  | cons m ms ih =>
    obtain ⟨k, v⟩ := m
    rw [membersAt, Checked.map_eq_ok_iff]
    constructor
    · rintro ⟨⟨t, fs⟩, h, rfl⟩
      obtain ⟨hv, hms⟩ := Checked.and_eq_ok_iff.mp h
      rw [textAt_eq_ok_iff.mp hv, ih.mp hms, List.map_cons]
    · intro h
      cases fs with
      | nil => cases h
      | cons f fs =>
        obtain ⟨hm, hms⟩ := List.cons.inj h
        obtain ⟨hk, hv⟩ := Prod.mk.inj hm
        refine ⟨(f.2, fs), ?_, by rw [hk]⟩
        exact Checked.and_eq_ok_iff.mpr ⟨textAt_eq_ok_iff.mpr hv, ih.mpr hms⟩

lemma textMembersAt_eq_ok_iff : textMembersAt location v = .ok fs ↔ v = .ofTextMembers fs := by
  cases v with
  | object ms => rw [textMembersAt, membersAt_eq_ok_iff, ofTextMembers, object.injEq]
  | _ => simp [textMembersAt, ofTextMembers, Checked.issue]

lemma optionalTextsAt_eq_ok_iff {o : Option Json} {rule : Option (List String)} :
    optionalTextsAt location o = .ok rule ↔ o.getD .null = (rule.map .ofTexts).getD .null := by
  cases o with
  | none => cases rule <;> simp [optionalTextsAt, ofTexts]
  | some v =>
    by_cases hv : v = .null
    · subst hv
      cases rule <;> simp [optionalTextsAt, ofTexts]
    · have hgiven : optionalTextsAt location (some v) = (textsAt location v).map some := by
        cases v <;> first | rfl | exact absurd rfl hv
      rw [hgiven, Checked.map_eq_ok_iff]
      cases rule <;> simp [textsAt_eq_ok_iff, hv]

lemma exists_eq_map_text_iff {us : List Json} :
    (∃ ts : List String, us = ts.map text) ↔ ∀ u ∈ us, ∃ t, u = .text t := by
  have h := Set.ext_iff.mp (Set.range_list_map text) us
  simpa [eq_comm] using h

lemma exists_eq_map_textMember_iff {ms : List (String × Json)} :
    (∃ fs : List (String × String), ms = fs.map fun f => (f.1, text f.2)) ↔
      ∀ m ∈ ms, ∃ t, m.2 = .text t := by
  have h := Set.ext_iff.mp
    (Set.range_list_map fun f : String × String => (f.1, Json.text f.2)) ms
  simpa [eq_comm, Prod.ext_iff] using h

end MarkupQuery.Json
