import Mathlib.Data.List.Forall2
import MarkupQuery.Trace

namespace MarkupQuery

lemma mapError_bind_congr {α β : Type} {f : Fault → Fault} {r r' : Except Fault α}
    {k k' : α → Except Fault β} (h : r.mapError f = r'.mapError f)
    (hk : ∀ a, r = .ok a → (k a).mapError f = (k' a).mapError f) :
    (r.bind k).mapError f = (r'.bind k').mapError f := by
  cases r with
  | error fault =>
    cases r' with
    | error fault' =>
      have he : f fault = f fault' := by simpa [Except.mapError] using h
      simp [Except.bind, Except.mapError, he]
    | ok a => cases h
  | ok a =>
    cases r' with
    | error fault => cases h
    | ok a' =>
      obtain rfl : a = a' := by simpa [Except.mapError] using h
      exact hk a rfl

lemma exists_of_bind {α γ : Type} {r : Except Fault α} {k : α → Except Fault γ} {c : γ}
    (h : r.bind k = .ok c) : ∃ a, r = .ok a ∧ k a = .ok c := by
  cases r with
  | error fault => cases h
  | ok a => exact ⟨a, rfl, h⟩

lemma exists_of_map {α γ : Type} {r : Except Fault α} {f : α → γ} {c : γ}
    (h : r.map f = .ok c) : ∃ a, r = .ok a ∧ f a = c := by
  cases r with
  | error fault => cases h
  | ok a => exact ⟨a, rfl, Except.ok.inj h⟩

lemma bind_eq_error_iff {α γ : Type} {r : Except Fault α} {k : α → Except Fault γ}
    {fault : Fault} :
    r.bind k = .error fault ↔ r = .error fault ∨ ∃ a, r = .ok a ∧ k a = .error fault := by
  cases r <;> simp [Except.bind]

lemma map_eq_error_iff {α γ : Type} {r : Except Fault α} {f : α → γ} {fault : Fault} :
    r.map f = .error fault ↔ r = .error fault := by
  cases r <;> simp [Except.map]

lemma Traced.outcome_bind {β α γ : Type} (t : Traced β α) (f : α → Traced β γ) :
    (t >>= f).outcome = t.outcome.bind fun a => (f a).outcome := by
  obtain ⟨events, outcome⟩ := t
  cases outcome <;> rfl

lemma Traced.observations_bind {β α γ : Type} (t : Traced β α) (f : α → Traced β γ) :
    (t >>= f).observations = t.observations ++ match t.outcome with
      | .ok a => (f a).observations
      | .error _ => [] := by
  obtain ⟨events, outcome⟩ := t
  cases outcome with
  | error fault => exact (List.append_nil _).symm
  | ok a => exact List.filterMap_append

lemma Traced.outcome_each_cons {β α γ : Type} (f : α → Traced β γ) (a : α) (as : List α) :
    (Traced.each f (a :: as)).outcome =
      (f a).outcome.bind fun c => (Traced.each f as).outcome.map (c :: ·) := by
  rw [Traced.each]
  refine (Traced.outcome_bind _ _).trans (congrArg _ (funext fun c => ?_))
  refine (Traced.outcome_bind _ _).trans ?_
  cases (Traced.each f as).outcome <;> rfl

lemma Traced.outcome_each_eq_ok_iff {β α γ : Type} {f : α → Traced β γ} {as : List α}
    {cs : List γ} :
    (Traced.each f as).outcome = .ok cs ↔
      List.Forall₂ (fun a c => (f a).outcome = .ok c) as cs := by
  induction as generalizing cs with
  | nil =>
    rw [List.forall₂_nil_left_iff]
    exact ⟨fun h => (Except.ok.inj h).symm, fun h => congrArg Except.ok h.symm⟩
  | cons a as ih =>
    rw [List.forall₂_cons_left_iff, Traced.outcome_each_cons]
    constructor
    · intro h
      obtain ⟨c, hc, h⟩ := exists_of_bind h
      obtain ⟨ds, hds, h⟩ := exists_of_map h
      exact ⟨c, ds, hc, ih.mp hds, h.symm⟩
    · rintro ⟨c, ds, hc, hds, rfl⟩
      rw [hc, ih.mpr hds]
      rfl

lemma Traced.exists_outcome_each_iff {β α γ : Type} {f : α → Traced β γ} {as : List α} :
    (∃ cs, (Traced.each f as).outcome = .ok cs) ↔ ∀ a ∈ as, ∃ c, (f a).outcome = .ok c := by
  induction as with
  | nil => exact ⟨fun _ => nofun, fun _ => ⟨[], rfl⟩⟩
  | cons a as ih =>
    rw [Traced.outcome_each_cons, List.forall_mem_cons, ← ih]
    constructor
    · rintro ⟨cs, h⟩
      obtain ⟨c, hc, h⟩ := exists_of_bind h
      obtain ⟨ds, hds, -⟩ := exists_of_map h
      exact ⟨⟨c, hc⟩, ds, hds⟩
    · rintro ⟨⟨c, hc⟩, ds, hds⟩
      rw [hc, hds]
      exact ⟨c :: ds, rfl⟩

lemma Traced.outcome_each_eq_error_iff {β α γ : Type} {f : α → Traced β γ} {as : List α}
    {fault : Fault} :
    (Traced.each f as).outcome = .error fault ↔
      ∃ before a after, as = before ++ a :: after ∧ (∀ b ∈ before, ∃ c, (f b).outcome = .ok c) ∧
        (f a).outcome = .error fault := by
  induction as with
  | nil =>
    refine ⟨nofun, ?_⟩
    rintro ⟨before, a, after, has, -⟩
    simp at has
  | cons a as ih =>
    rw [Traced.outcome_each_cons, bind_eq_error_iff]
    constructor
    · rintro (ha | ⟨c, hc, h⟩)
      · exact ⟨[], a, as, rfl, nofun, ha⟩
      · obtain ⟨before, b, after, rfl, hbefore, hb⟩ := ih.mp (map_eq_error_iff.mp h)
        refine ⟨a :: before, b, after, rfl, ?_, hb⟩
        exact List.forall_mem_cons.mpr ⟨⟨c, hc⟩, hbefore⟩
    · rintro ⟨before, b, after, has, hbefore, hb⟩
      cases before with
      | nil =>
        obtain ⟨rfl, rfl⟩ := List.cons.inj has
        exact .inl hb
      | cons b' before =>
        obtain ⟨rfl, rfl⟩ := List.cons.inj has
        obtain ⟨⟨c, hc⟩, hbefore⟩ := List.forall_mem_cons.mp hbefore
        exact .inr ⟨c, hc, map_eq_error_iff.mpr (ih.mpr ⟨before, b, after, rfl, hbefore, hb⟩)⟩

end MarkupQuery
