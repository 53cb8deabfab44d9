import MarkupQuery.Proofs.Json.Field
import MarkupQuery.Schema.Check
import MarkupQuery.Schema.Files

namespace MarkupQuery

def Others.Admits : Others Schema → List (String × Json) → Prop
  | free, _ => True
  | forbidden, ms => ms = []
  | each s, ms => ∀ m ∈ ms, s.accepts m.2

namespace Schema

open Json

structure Fits (s : Schema) (v : Json) : Prop where
  kind : Kind.ofJson v ∈ s.kinds
  choice : ∀ ss ∈ s.choices, ∃ t ∈ ss, v = .text t
  length : ∀ n ∈ s.minLength, ∀ t, v = .text t → n ≤ t.length
  items : ∀ r ∈ s.items, ∀ us, v = .list us → ∀ u ∈ us, r.accepts u
  properties : ∀ ps ∈ s.properties, ∀ p ∈ ps, ∀ u,
    (membersOf v).lookup p.1 = some u → p.2.accepts u
  required : ∀ ms, v = .object ms → ∀ name ∈ s.required, name ∈ ms.map (·.1)
  others : s.others.Admits (otherMembers (propertyNames s.properties) v)

variable {s : Schema} {v : Json} {ms : List (String × Json)} {notes : List (String × Json)}
  {ps : List (String × Schema)} {required : List String} {others : Others Schema}

lemma demand_eq_nil_iff {condition : Bool} {keyword : String} :
    demand condition keyword = [] ↔ condition = true := by
  cases condition <;> simp [demand]

lemma accepts_iff_violations : s.accepts v ↔ s.violations v = [] := List.isEmpty_iff

lemma isChoice_iff {choices : List String} :
    isChoice choices v = true ↔ ∃ t ∈ choices, v = .text t := by
  cases v <;> simp [isChoice]

lemma isLongEnough_iff {least : Nat} :
    isLongEnough least v = true ↔ ∀ t, v = .text t → least ≤ t.length := by
  cases v <;> simp [isLongEnough]

lemma inItems_go_eq_nil_iff {check : Json → List Violation} (i : Nat) {vs : List Json} :
    inItems.go check i vs = [] ↔ ∀ u ∈ vs, check u = [] := by
  induction vs generalizing i with
  | nil => simp [inItems.go]
  | cons u vs ih => simp [inItems.go, ih]

lemma itemViolations_eq_nil_iff {items : Option Schema} : itemViolations items v = [] ↔
    ∀ r ∈ items, ∀ us, v = .list us → ∀ u ∈ us, r.accepts u := by
  cases items with
  | none => simp [itemViolations]
  | some r =>
    cases v <;> simp [itemViolations, inItems, inItems_go_eq_nil_iff, accepts_iff_violations]

lemma inMember_eq_nil_iff {name : String} {check : Json → List Violation} :
    inMember name check v = [] ↔ ∀ u, (membersOf v).lookup name = some u → check u = [] := by
  cases v with
  | object ms => cases h : ms.lookup name <;> simp [inMember, membersOf, h]
  | _ => simp [inMember, membersOf]

lemma propertyViolations_eq_nil_iff {properties : Option (List (String × Schema))} :
    propertyViolations properties v = [] ↔ ∀ ps ∈ properties, ∀ p ∈ ps, ∀ u,
      (membersOf v).lookup p.1 = some u → p.2.accepts u := by
  cases properties with
  | none => simp [propertyViolations]
  | some ps =>
    simp only [propertyViolations, Option.mem_def, Option.some.injEq, forall_eq']
    induction ps with
    | nil => simp [memberViolations]
    | cons p ps ih =>
      rw [memberViolations, List.append_eq_nil_iff, inMember_eq_nil_iff, ih, List.forall_mem_cons]
      simp only [accepts_iff_violations]

lemma missing_eq_nil_iff : missing required v = [] ↔
    ∀ ms, v = .object ms → ∀ name ∈ required, name ∈ ms.map (·.1) := by
  cases v <;> simp [missing, demand_eq_nil_iff]

lemma otherViolations_eq_nil_iff : otherViolations others ms = [] ↔ others.Admits ms := by
  cases others with
  | free => simp [otherViolations, Others.Admits]
  | forbidden => simp [otherViolations, Others.Admits, demand_eq_nil_iff]
  | each s => simp [otherViolations, Others.Admits, accepts_iff_violations]

theorem accepts_iff_fits : s.accepts v ↔ s.Fits v := by
  obtain ⟨notes, kinds, choices, minLength, items, properties, required, others⟩ := s
  rw [accepts_iff_violations, violations]
  simp only [List.append_eq_nil_iff, List.flatMap_eq_nil_iff, Option.mem_toList,
    demand_eq_nil_iff, List.contains_iff_mem, isChoice_iff, isLongEnough_iff,
    itemViolations_eq_nil_iff, propertyViolations_eq_nil_iff, missing_eq_nil_iff,
    otherViolations_eq_nil_iff]
  constructor
  · rintro ⟨⟨⟨⟨⟨⟨hkind, hchoice⟩, hlength⟩, hitems⟩, hproperties⟩, hrequired⟩, hothers⟩
    exact ⟨hkind, hchoice, hlength, hitems, hproperties, hrequired, hothers⟩
  · rintro ⟨hkind, hchoice, hlength, hitems, hproperties, hrequired, hothers⟩
    exact ⟨⟨⟨⟨⟨⟨hkind, hchoice⟩, hlength⟩, hitems⟩, hproperties⟩, hrequired⟩, hothers⟩

lemma kind_eq_string_iff : Kind.ofJson v = .string ↔ ∃ t, v = .text t := by
  cases v <;> simp [Kind.ofJson]

lemma kind_eq_array_iff : Kind.ofJson v = .array ↔ ∃ us, v = .list us := by
  cases v <;> simp [Kind.ofJson]

lemma kind_eq_null_iff : Kind.ofJson v = .null ↔ v = .null := by
  cases v <;> simp [Kind.ofJson]

lemma kind_eq_object_iff : Kind.ofJson v = .object ↔ ∃ ms, v = .object ms := by
  cases v <;> simp [Kind.ofJson]

lemma fits_ofKinds {kinds : List Kind} (hkind : Kind.ofJson v ∈ kinds) :
    (ofKinds notes kinds).Fits v :=
  ⟨hkind, nofun, nofun, nofun, nofun, fun _ _ => nofun, trivial⟩

lemma accepts_ofKinds_iff {kinds : List Kind} :
    (ofKinds notes kinds).accepts v ↔ Kind.ofJson v ∈ kinds :=
  accepts_iff_fits.trans ⟨Fits.kind, fits_ofKinds⟩

lemma accepts_choice_iff {choices : List String} :
    (Schema.choice notes choices).accepts v ↔ ∃ t ∈ choices, v = .text t := by
  rw [accepts_iff_fits]
  constructor
  · intro h
    exact h.choice choices rfl
  · rintro ⟨t, ht, rfl⟩
    have hkind : (ofKinds notes [.string]).Fits (.text t) :=
      fits_ofKinds (List.mem_singleton_self _)
    refine { hkind with choice := ?_ }
    rintro _ ⟨⟩
    exact ⟨t, ht, rfl⟩

lemma accepts_filled_iff : (filled notes).accepts v ↔ ∃ t, v = .text t ∧ t ≠ "" := by
  rw [accepts_iff_fits]
  constructor
  · intro h
    obtain ⟨t, rfl⟩ := kind_eq_string_iff.mp (List.mem_singleton.mp h.kind)
    refine ⟨t, rfl, ?_⟩
    rintro rfl
    exact absurd (h.length 1 rfl "" rfl) (by decide)
  · rintro ⟨t, rfl, ht⟩
    have hkind : (ofKinds notes [.string]).Fits (.text t) :=
      fits_ofKinds (List.mem_singleton_self _)
    refine { hkind with length := ?_ }
    rintro _ ⟨⟩ _ ⟨⟩
    exact Nat.pos_of_ne_zero (mt String.length_eq_zero_iff.mp ht)

lemma accepts_textList_iff : (textList notes).accepts v ↔ v = .null ∨ ∃ ts, v = .ofTexts ts := by
  rw [accepts_iff_fits]
  constructor
  · intro h
    have hkind : Kind.ofJson v ∈ [Kind.array, .null] := h.kind
    rcases List.mem_cons.mp hkind with hkind | hkind
    · obtain ⟨us, rfl⟩ := kind_eq_array_iff.mp hkind
      have htexts : ∀ u ∈ us, ∃ t, u = .text t := fun u hu => by
        have hu' := accepts_ofKinds_iff.mp (h.items _ rfl us rfl u hu)
        exact kind_eq_string_iff.mp (List.mem_singleton.mp hu')
      obtain ⟨ts, rfl⟩ := exists_eq_map_text_iff.mpr htexts
      exact .inr ⟨ts, rfl⟩
    · exact .inl (kind_eq_null_iff.mp (List.mem_singleton.mp hkind))
  · intro h
    have hkind : (ofKinds notes [.array, .null]).Fits v := by
      apply fits_ofKinds
      rcases h with rfl | ⟨ts, rfl⟩ <;> simp [Kind.ofJson, ofTexts]
    refine { hkind with items := ?_ }
    rintro _ ⟨⟩ us rfl u hu
    obtain h | ⟨ts, h⟩ := h
    · cases h
    obtain rfl := list.inj h
    obtain ⟨t, -, rfl⟩ := List.mem_map.mp hu
    exact accepts_ofKinds_iff.mpr (List.mem_singleton_self _)

lemma accepts_each_iff : Schema.accepts { ofKinds notes [.object] with others := .each s } v ↔
    ∃ ms, v = .object ms ∧ ∀ m ∈ ms, s.accepts m.2 := by
  have hall (ms : List (String × Json)) : otherMembers [] (.object ms) = ms := by
    simp [otherMembers, membersOf]
  rw [accepts_iff_fits]
  constructor
  · intro h
    obtain ⟨ms, rfl⟩ := kind_eq_object_iff.mp (List.mem_singleton.mp h.kind)
    have hothers : ∀ m ∈ otherMembers [] (.object ms), s.accepts m.2 := h.others
    rw [hall] at hothers
    exact ⟨ms, rfl, hothers⟩
  · rintro ⟨ms, rfl, hms⟩
    have hkind : (ofKinds notes [.object]).Fits (.object ms) :=
      fits_ofKinds (List.mem_singleton_self _)
    refine { hkind with others := ?_ }
    change ∀ m ∈ otherMembers [] (.object ms), s.accepts m.2
    rw [hall]
    exact hms

lemma accepts_each_filled_iff {notes' : List (String × Json)} :
    Schema.accepts { ofKinds notes [.object] with others := .each (filled notes') } v ↔
      ∃ fs, v = .ofTextMembers fs ∧ ∀ f ∈ fs, f.2 ≠ "" := by
  rw [accepts_each_iff]
  simp only [accepts_filled_iff]
  constructor
  · rintro ⟨ms, rfl, hms⟩
    obtain ⟨fs, rfl⟩ := exists_eq_map_textMember_iff.mpr fun m hm =>
      (hms m hm).imp fun _ => And.left
    refine ⟨fs, rfl, fun f hf => ?_⟩
    obtain ⟨t, ht, hne⟩ := hms _ (List.mem_map_of_mem hf)
    obtain rfl : f.2 = t := by simpa using ht
    exact hne
  · rintro ⟨fs, rfl, hfs⟩
    refine ⟨_, rfl, fun m hm => ?_⟩
    obtain ⟨f, hf, rfl⟩ := List.mem_map.mp hm
    exact ⟨f.2, rfl, hfs f hf⟩

lemma accepts_ofProperties_iff : (ofProperties notes ps required others).accepts (.object ms) ↔
    (∀ p ∈ ps, ∀ u, ms.lookup p.1 = some u → p.2.accepts u) ∧
      (∀ name ∈ required, name ∈ ms.map (·.1)) ∧
      others.Admits (otherMembers (ps.map (·.1)) (.object ms)) := by
  rw [accepts_iff_fits]
  constructor
  · intro h
    exact ⟨h.properties ps rfl, h.required ms rfl, h.others⟩
  · rintro ⟨hps, hrequired, hothers⟩
    have hkind : (ofKinds notes [.object]).Fits (.object ms) :=
      fits_ofKinds (List.mem_singleton_self _)
    refine { hkind with properties := ?_, required := ?_, others := hothers }
    · rintro _ ⟨⟩
      exact hps
    · rintro _ ⟨⟩
      exact hrequired

end Schema

end MarkupQuery
