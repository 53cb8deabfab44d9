import MarkupQuery.Proofs.Extraction.Members
import MarkupQuery.Proofs.Json.Members
import MarkupQuery.Proofs.Schema.Check

namespace MarkupQuery.Schema

open Extraction Json Text

def configNames : List String := ["rows", "fields", "skip_if_blank", "repeat_if_blank"]

def known (ms : List (String × Json)) : List (String × Json) :=
  ms.filter fun m => configNames.contains m.1

structure Shown (ms : List (String × Json)) : Prop where
  rows : ∀ s, ms.lookup "rows" = some (.text s) → isBlankText s = false
  fields : ∀ fs, ms.lookup "fields" = some (.object fs) →
    ∀ f ∈ fs, ∀ s, f.2 = .text s → isBlankText s = false

structure Filled (ms : List (String × Json)) : Prop where
  rows : ∃ s, ms.lookup "rows" = some (.text s) ∧ s ≠ ""
  fields : ∃ fs, ms.lookup "fields" = some (.ofTextMembers fs) ∧ ∀ f ∈ fs, f.2 ≠ ""
  skip : ∃ rule, (ms.lookup "skip_if_blank").getD .null = Config.textsOrNull rule
  repeated : ∃ rule, (ms.lookup "repeat_if_blank").getD .null = Config.textsOrNull rule

variable {ms : List (String × Json)} {name : String} {o : Option Json}

lemma exists_rule_iff : (∃ rule, o.getD .null = Config.textsOrNull rule) ↔
    ∀ u, o = some u → u = .null ∨ ∃ ts, u = .ofTexts ts := by
  constructor
  · rintro ⟨rule, h⟩ u rfl
    cases rule with
    | none => exact .inl h
    | some ts => exact .inr ⟨ts, h⟩
  · intro h
    cases o with
    | none => exact ⟨none, rfl⟩
    | some u =>
      rcases h u rfl with rfl | ⟨ts, rfl⟩
      · exact ⟨none, rfl⟩
      · exact ⟨some ts, rfl⟩

lemma exists_lookup_and_iff {P : Json → Prop} :
    (∃ u, ms.lookup name = some u ∧ P u) ↔
      (∀ u, ms.lookup name = some u → P u) ∧ name ∈ ms.map (·.1) := by
  rw [← exists_lookup_iff]
  constructor
  · rintro ⟨u, hu, hP⟩
    refine ⟨fun w hw => ?_, u, hu⟩
    obtain rfl := Option.some.inj (hu.symm.trans hw)
    exact hP
  · rintro ⟨hall, u, hu⟩
    exact ⟨u, hu, hall u hu⟩

lemma otherMembers_eq_nil_iff {names : List String} :
    otherMembers names (.object ms) = [] ↔ ∀ m ∈ ms, m.1 ∈ names := by
  simp [otherMembers, membersOf]

lemma accepts_extraction_iff :
    extraction.accepts (.object ms) ↔ Filled ms ∧ ∀ m ∈ ms, m.1 ∈ configNames := by
  rw [extraction, accepts_ofProperties_iff, Others.Admits, otherMembers_eq_nil_iff]
  simp only [List.forall_mem_cons, accepts_filled_iff, accepts_each_filled_iff,
    accepts_textList_iff, ← exists_rule_iff]
  constructor
  · rintro ⟨⟨hrows, hfields, hskip, hrepeated, -⟩, ⟨hrows', hfields', -⟩, hothers⟩
    obtain ⟨_, hrows, s, rfl, hs⟩ := exists_lookup_and_iff.mpr ⟨hrows, hrows'⟩
    obtain ⟨_, hfields, fs, rfl, hfs⟩ := exists_lookup_and_iff.mpr ⟨hfields, hfields'⟩
    exact ⟨⟨⟨s, hrows, hs⟩, ⟨fs, hfields, hfs⟩, hskip, hrepeated⟩, hothers⟩
  · rintro ⟨⟨⟨s, hrows, hs⟩, ⟨fs, hfields, hfs⟩, hskip, hrepeated⟩, hothers⟩
    have hrows : ∃ u, ms.lookup "rows" = some u ∧ ∃ s, u = .text s ∧ s ≠ "" :=
      ⟨_, hrows, s, rfl, hs⟩
    have hfields : ∃ u, ms.lookup "fields" = some u ∧
        ∃ fs, u = .ofTextMembers fs ∧ ∀ f ∈ fs, f.2 ≠ "" := ⟨_, hfields, fs, rfl, hfs⟩
    obtain ⟨hrows, hrows'⟩ := exists_lookup_and_iff.mp hrows
    obtain ⟨hfields, hfields'⟩ := exists_lookup_and_iff.mp hfields
    exact ⟨⟨hrows, hfields, hskip, hrepeated, List.forall_mem_nil _⟩,
      ⟨hrows', hfields', List.forall_mem_nil _⟩, hothers⟩

lemma lookup_known (h : name ∈ configNames) : (known ms).lookup name = ms.lookup name :=
  lookup_filter (List.contains_iff_mem.mpr h)

lemma Filled.congr {ms' : List (String × Json)} (hms : Filled ms)
    (h : ∀ name ∈ configNames, ms.lookup name = ms'.lookup name) : Filled ms' := by
  obtain ⟨hrows, hfields, hskip, hrepeated⟩ := hms
  simp only [configNames, List.forall_mem_cons] at h
  obtain ⟨h_rows, h_fields, h_skip, h_repeated, -⟩ := h
  exact ⟨h_rows ▸ hrows, h_fields ▸ hfields, h_skip ▸ hskip, h_repeated ▸ hrepeated⟩

lemma filled_known_iff : Filled (known ms) ↔ Filled ms :=
  ⟨fun h => h.congr fun _ => lookup_known, fun h => h.congr fun _ hn => (lookup_known hn).symm⟩

lemma accepts_known_iff : extraction.accepts (.object (known ms)) ↔ Filled ms := by
  rw [accepts_extraction_iff, filled_known_iff, and_iff_left_iff_imp]
  intro _ m hm
  exact List.contains_iff_mem.mp (List.mem_filter.mp hm).2

lemma ne_empty_of_shown {s : String} (h : isBlankText s = false) : s ≠ "" := by
  rintro rfl
  cases h

lemma filled_of_lookup {c : Config} (hrows : ms.lookup "rows" = some (.text c.rows))
    (hfields : ms.lookup "fields" = some (.ofTextMembers c.fields))
    (hskip : (ms.lookup "skip_if_blank").getD .null = Config.textsOrNull c.skipIfBlank)
    (hrepeated : (ms.lookup "repeat_if_blank").getD .null = Config.textsOrNull c.repeatIfBlank) :
    Filled ms where
  rows := ⟨c.rows, hrows, ne_empty_of_shown c.rows_shown⟩
  fields := ⟨c.fields, hfields, fun f hf => ne_empty_of_shown (c.fields_shown f hf)⟩
  skip := ⟨c.skipIfBlank, hskip⟩
  repeated := ⟨c.repeatIfBlank, hrepeated⟩

lemma shown_of_lookup {c : Config} (hrows : ms.lookup "rows" = some (.text c.rows))
    (hfields : ms.lookup "fields" = some (.ofTextMembers c.fields)) : Shown ms := by
  constructor
  · intro s hs
    obtain rfl : c.rows = s := by simpa [hrows] using hs
    exact c.rows_shown
  · intro fs hfs f hf s hs
    obtain rfl : c.fields.map (fun g => (g.1, .text g.2)) = fs :=
      Json.object.inj (Option.some.inj (hfields.symm.trans hfs))
    obtain ⟨g, hg, rfl⟩ := List.mem_map.mp hf
    exact Json.text.inj hs ▸ c.fields_shown g hg

lemma exists_ofJson_iff (hnodup : ∀ fs, ms.lookup "fields" = some (.object fs) →
      (fs.map (·.1)).Nodup) :
    (∃ c, Config.ofJson (.object ms) = .ok c) ↔ Filled ms ∧ Shown ms := by
  -- Where no name comes twice, the last value of a name is its only one.
  have hkeys (fs) (h : ms.lookup "fields" = some (.ofTextMembers fs)) :
      (fs.map (·.1)).Nodup := by
    simpa [List.map_map, Function.comp_def] using hnodup _ h
  simp only [Config.ofJson_eq_ok_iff, Config.ofMembers_eq_ok_iff]
  constructor
  · rintro ⟨c, hrows, ⟨fs, hfields, hfs⟩, hskip, hrepeated⟩
    obtain rfl : fs = c.fields := (settled_eq_self (hkeys fs hfields)).symm.trans hfs
    exact ⟨filled_of_lookup hrows hfields hskip hrepeated, shown_of_lookup hrows hfields⟩
  · rintro ⟨⟨⟨s, hrows, -⟩, ⟨fs, hfields, -⟩, ⟨skip, hskip⟩, ⟨repeated, hrepeated⟩⟩, hshown⟩
    have hfields_shown : ∀ f ∈ fs, isBlankText f.2 = false := fun f hf =>
      hshown.fields _ hfields (f.1, .text f.2) (List.mem_map_of_mem hf) f.2 rfl
    exact ⟨⟨s, fs, skip, repeated, hshown.rows s hrows, hfields_shown, hkeys fs hfields⟩, hrows,
      ⟨fs, hfields, settled_eq_self (hkeys fs hfields)⟩, hskip, hrepeated⟩

/-- Members beside those of a configuration are ignored in making one, and refused by the schema;
of a selector the schema asks only that it is not empty, and not that it is not blank. -/
theorem extraction_agreement (ms : List (String × Json))
    (hnodup : ∀ fs, ms.lookup "fields" = some (.object fs) → (fs.map (·.1)).Nodup) :
    ((∃ c, Config.ofJson (.object ms) = .ok c) ↔
        extraction.accepts (.object (known ms)) ∧ Shown ms) ∧
      (extraction.accepts (.object ms) ↔
        extraction.accepts (.object (known ms)) ∧ ∀ m ∈ ms, m.1 ∈ configNames) := by
  rw [accepts_known_iff]
  exact ⟨exists_ofJson_iff hnodup, accepts_extraction_iff⟩

theorem extraction_agreement_note :
    let ms : List (String × Json) := [("rows", .text "tr"), ("note", .null),
      ("fields", .object [("date", .text "td:first"), ("price", .text "\u00a0")])]
    (∀ fs, ms.lookup "fields" = some (.object fs) → (fs.map (·.1)).Nodup) ∧
    extraction.accepts (.object (known ms)) ∧
    (∀ c, Config.ofJson (.object ms) ≠ .ok c) ∧ ¬ extraction.accepts (.object ms) := by
  intro ms
  have hfields : ms.lookup "fields" =
      some (.object [("date", .text "td:first"), ("price", .text "\u00a0")]) := rfl
  have hnodup : ∀ fs, ms.lookup "fields" = some (.object fs) → (fs.map (·.1)).Nodup := by
    intro fs h
    obtain rfl := Json.object.inj (Option.some.inj (hfields.symm.trans h))
    decide
  have hknown : extraction.accepts (.object (known ms)) := by decide +kernel
  obtain ⟨hmade, hchecked⟩ := extraction_agreement ms hnodup
  refine ⟨hnodup, hknown, fun c hc => ?_, fun h => ?_⟩
  · have hblank := (hmade.mp ⟨c, hc⟩).2.fields _ hfields ("price", .text "\u00a0") (by simp) _ rfl
    revert hblank
    decide
  · have hnote := (hchecked.mp h).2 ("note", .null) (by simp [ms])
    revert hnote
    decide

-- What is made into a configuration need not be accepted, nor the other way round.
theorem extraction_disagreement :
    let noted : Json := .object [("rows", .text "tr"), ("fields", .object []), ("note", .text "x")]
    let blank : Json := .object [("rows", .text " "), ("fields", .object [])]
    ((∃ c, Config.ofJson noted = .ok c) ∧ ¬ extraction.accepts noted) ∧
      (∀ c, Config.ofJson blank ≠ .ok c) ∧ extraction.accepts blank := by
  intro noted blank
  have hmade : ∃ c, Config.ofJson noted = .ok c :=
    ⟨⟨"tr", [], none, none, by decide, List.forall_mem_nil _, List.nodup_nil⟩, rfl⟩
  refine ⟨⟨hmade, by decide +kernel⟩, fun c hc => ?_, by decide +kernel⟩
  cases hc

end MarkupQuery.Schema
