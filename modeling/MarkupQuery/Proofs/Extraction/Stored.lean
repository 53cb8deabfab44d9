import MarkupQuery.Proofs.Extraction.Members
import MarkupQuery.Proofs.Json.RoundTrip

namespace MarkupQuery

open Extraction Json Text

namespace Json

lemma membersWithoutNulls_cons {v : Json} (hv : v ≠ null) (k : String)
    (ms : List (String × Json)) :
    membersWithoutNulls ((k, v) :: ms) = (k, v.withoutNulls) :: membersWithoutNulls ms := by
  rw [membersWithoutNulls]
  exact hv

lemma withoutNulls_text (s : String) : (text s).withoutNulls = text s := by
  simp [withoutNulls]

lemma withoutNulls_ofTexts (ss : List String) : (ofTexts ss).withoutNulls = ofTexts ss := by
  have h : itemsWithoutNulls (ss.map text) = ss.map text := by
    induction ss with
    | nil => rfl
    | cons s ss ih => rw [List.map_cons, itemsWithoutNulls, withoutNulls_text, ih]
  rw [ofTexts, withoutNulls, h]

lemma withoutNulls_ofTextMembers (ms : List (String × String)) :
    (ofTextMembers ms).withoutNulls = ofTextMembers ms := by
  have h : membersWithoutNulls (ms.map fun m => (m.1, text m.2)) =
      ms.map fun m => (m.1, text m.2) := by
    induction ms with
    | nil => rfl
    | cons m ms ih =>
      rw [List.map_cons, membersWithoutNulls_cons (v := text m.2) nofun, withoutNulls_text, ih]
  rw [ofTextMembers, withoutNulls, h]

lemma kept_ofTexts (ss : List String) : Kept (ofTexts ss) := by
  refine .list fun v hv => ?_
  obtain ⟨s, -, rfl⟩ := List.mem_map.mp hv
  exact .scalar (legible_text s)

lemma kept_ofTextMembers {ms : List (String × String)} (h : (ms.map (·.1)).Nodup) :
    Kept (ofTextMembers ms) := by
  refine .object (by simpa [List.map_map, Function.comp_def] using h) fun m hm => ?_
  obtain ⟨f, -, rfl⟩ := List.mem_map.mp hm
  exact .scalar (legible_text f.2)

end Json

namespace Extraction.Config

def ruleMember (name : String) (rule : Option (List String)) : List (String × Json) :=
  rule.toList.map fun ss => (name, .ofTexts ss)

lemma membersWithoutNulls_textsOrNull (name : String) (rule : Option (List String))
    (ms : List (String × Json)) : membersWithoutNulls ((name, textsOrNull rule) :: ms) =
      ruleMember name rule ++ membersWithoutNulls ms := by
  cases rule with
  | none => rfl
  | some ss =>
    rw [textsOrNull, membersWithoutNulls_cons (v := .ofTexts ss) nofun, withoutNulls_ofTexts]
    rfl

lemma stored_eq (c : Config) : c.stored = .object (("rows", .text c.rows) ::
    ("fields", .ofTextMembers c.fields) :: ruleMember "skip_if_blank" c.skipIfBlank ++
      ruleMember "repeat_if_blank" c.repeatIfBlank) := by
  rw [stored, toJson, withoutNulls, members, membersWithoutNulls_cons (v := .text c.rows) nofun,
    membersWithoutNulls_cons (v := .ofTextMembers c.fields) nofun, withoutNulls_text,
    withoutNulls_ofTextMembers,
    membersWithoutNulls_textsOrNull, membersWithoutNulls_textsOrNull, membersWithoutNulls,
    List.append_nil]
  rfl

lemma exists_stored_members (c : Config) : ∃ ms, c.stored = .object ms ∧
    ms.lookup "rows" = some (.text c.rows) ∧
    ms.lookup "fields" = some (.ofTextMembers c.fields) ∧
    (ms.lookup "skip_if_blank").getD .null = textsOrNull c.skipIfBlank ∧
    (ms.lookup "repeat_if_blank").getD .null = textsOrNull c.repeatIfBlank ∧
    ∀ m ∈ ms, m.1 ∈ c.members.map (·.1) := by
  refine ⟨_, c.stored_eq, rfl, rfl, ?_⟩
  simp only [ruleMember, members]
  cases c.skipIfBlank <;> cases c.repeatIfBlank <;> exact ⟨rfl, rfl, by simp⟩

lemma ofJson_stored (c : Config) : ofJson c.stored = .ok c := by
  obtain ⟨ms, hms, hrows, hfields, hskip, hrepeated, -⟩ := c.exists_stored_members
  rw [hms, ofJson_eq_ok_iff, ofMembers_eq_ok_iff]
  exact ⟨hrows, ⟨c.fields, hfields, settled_eq_self c.names_nodup⟩, hskip, hrepeated⟩

lemma kept_ruleMember {name : String} {rule : Option (List String)} {m : String × Json}
    (hm : m ∈ ruleMember name rule) : Kept m.2 := by
  obtain ⟨ss, -, rfl⟩ := List.mem_map.mp hm
  exact kept_ofTexts ss

lemma kept_stored (c : Config) : Kept c.stored := by
  rw [stored_eq]
  refine .object ?_ ?_
  · cases c.skipIfBlank <;> cases c.repeatIfBlank <;> simp [ruleMember]
  · simp only [List.cons_append, List.forall_mem_cons, List.forall_mem_append]
    exact ⟨.scalar (legible_text c.rows), kept_ofTextMembers c.names_nodup,
      fun _ => kept_ruleMember, fun _ => kept_ruleMember⟩

end Extraction.Config

end MarkupQuery
