import MarkupQuery.Extraction.Config
import MarkupQuery.Proofs.Json.Field

namespace MarkupQuery.Extraction.Config

open Json Text

variable {o : Option Json} {ms : List (String × Json)} {c : Config}

lemma rowsOf_eq_ok_iff {rows : { s : String // isBlankText s = false }} :
    rowsOf o = .ok rows ↔ o = some (.text rows.val) := by
  obtain ⟨s, hs⟩ := rows
  cases o with
  | none => simp [rowsOf, Checked.issue]
  | some v =>
    have hv : v = .text s ↔ textAt [.field "rows"] v = .ok s := textAt_eq_ok_iff.symm
    rw [Option.some.injEq, hv, rowsOf]
    cases textAt [.field "rows"] v with
    | error issues => simp
    | ok t =>
      by_cases hshown : isBlankText t = false
      · simp [hshown]
      · have hne : t ≠ s := by
          rintro rfl
          exact hshown hs
        simp [hshown, hne, Checked.issue]

lemma fieldsOf_eq_ok_iff {fields : Fields} : fieldsOf o = .ok fields ↔
    ∃ fs, o = some (.ofTextMembers fs) ∧ settled fs = fields.members := by
  obtain ⟨members, hshown, hnodup⟩ := fields
  cases o with
  | none => simp [fieldsOf, Checked.issue]
  | some v =>
    have hv (fs) : v = .ofTextMembers fs ↔ textMembersAt [.field "fields"] v = .ok fs :=
      textMembersAt_eq_ok_iff.symm
    simp only [Option.some.injEq, hv, fieldsOf]
    cases textMembersAt [.field "fields"] v with
    | error issues => simp
    | ok fs =>
      simp only [Except.ok.injEq, exists_eq_left']
      split
      · next f hf =>
        have hblank : isBlankText f.2 = true :=
          List.find?_some (p := fun f : String × String => isBlankText f.2) hf
        have hne : settled fs ≠ members := by
          rintro rfl
          exact absurd hblank (by simp [hshown f (List.mem_of_find?_eq_some hf)])
        simp [hne, Checked.issue]
      · rw [Except.ok.injEq, Fields.mk.injEq]

lemma ofMembers_eq_ok_iff : ofMembers ms = .ok c ↔
    ms.lookup "rows" = some (.text c.rows) ∧
    (∃ fs, ms.lookup "fields" = some (.ofTextMembers fs) ∧ settled fs = c.fields) ∧
    (ms.lookup "skip_if_blank").getD .null = textsOrNull c.skipIfBlank ∧
    (ms.lookup "repeat_if_blank").getD .null = textsOrNull c.repeatIfBlank := by
  have hrule (location o rule) :
      optionalTextsAt location o = .ok rule ↔ o.getD .null = textsOrNull rule := by
    rw [optionalTextsAt_eq_ok_iff]
    cases rule <;> rfl
  simp only [ofMembers, Checked.map_eq_ok_iff, Checked.and_eq_ok_iff]
  constructor
  · rintro ⟨⟨rows, fields, skip, repeated⟩, ⟨hrows, hfields, hskip, hrepeated⟩, rfl⟩
    exact ⟨rowsOf_eq_ok_iff.mp hrows, fieldsOf_eq_ok_iff.mp hfields, (hrule _ _ _).mp hskip,
      (hrule _ _ _).mp hrepeated⟩
  · rintro ⟨hrows, hfields, hskip, hrepeated⟩
    refine ⟨(⟨c.rows, c.rows_shown⟩, ⟨c.fields, c.fields_shown, c.names_nodup⟩, c.skipIfBlank,
      c.repeatIfBlank), ⟨?_, ?_, ?_, ?_⟩, rfl⟩
    · exact rowsOf_eq_ok_iff.mpr hrows
    · exact fieldsOf_eq_ok_iff.mpr hfields
    · exact (hrule _ _ _).mpr hskip
    · exact (hrule _ _ _).mpr hrepeated

lemma ofJson_eq_ok_iff : ofJson (.object ms) = .ok c ↔ ofMembers ms = .ok c :=
  Checked.fault_eq_ok_iff

end MarkupQuery.Extraction.Config
