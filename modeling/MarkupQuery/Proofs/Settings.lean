import MarkupQuery.Proofs.Json.Field
import MarkupQuery.Proofs.Json.Members
import MarkupQuery.Proofs.Schema.Check
import MarkupQuery.Settings

namespace MarkupQuery

open Json Markup Text

lemma Markup.Engine.ofName?_name (e : Engine) : Engine.ofName? e.name = some e := by
  cases e <;> decide

lemma Level.ofName?_uppered_name (l : Level) : Level.ofName? (uppered l.name) = some l := by
  cases l <;> decide

namespace Settings

structure Apart (s : Settings) : Prop where
  distinct : (s.extras.map (·.1)).Nodup
  foreign : ∀ m ∈ s.extras, m.1 ∉ ownNames

variable {s : Settings} {ms : List (String × Json)} {name : String} {v : Json}

lemma engineAt_name (location : List Key) (e : Engine) :
    engineAt location (.text e.name) = .ok e := by
  rw [engineAt, Engine.ofName?_name]

lemma levelAt_name (location : List Key) (l : Level) :
    levelAt location (.text l.name) = .ok l := by
  simp only [levelAt, textAt, Level.ofName?_uppered_name]

lemma memberOr_of_lookup {α : Type} {default : α} {read : List Key → Json → Checked α}
    (h : ms.lookup name = some v) : memberOr ms name default read = read [.field name] v := by
  rw [memberOr, h]

lemma ofMembers_eq_ok_iff : ofMembers ms = .ok s ↔
    memberOr ms "parser" default.engine engineAt = .ok s.engine ∧
    memberOr ms "log_level" default.level levelAt = .ok s.level ∧
    memberOr ms "verbose" default.verbose truthAt = .ok s.verbose ∧
    memberOr ms "config_dir" default.directory textAt = .ok s.directory ∧
    (settled ms).filter (fun m => !ownNames.contains m.1) = s.extras := by
  simp only [ofMembers, Checked.map_eq_ok_iff, Checked.and_eq_ok_iff]
  constructor
  · rintro ⟨_, ⟨hengine, hlevel, hverbose, hdirectory⟩, rfl⟩
    exact ⟨hengine, hlevel, hverbose, hdirectory, rfl⟩
  · rintro ⟨hengine, hlevel, hverbose, hdirectory, hextras⟩
    exact ⟨(s.engine, s.level, s.verbose, s.directory),
      ⟨hengine, hlevel, hverbose, hdirectory⟩, by rw [hextras]⟩

lemma ofJson_eq_ok_iff : ofJson (.object ms) = .ok s ↔ ofMembers ms = .ok s :=
  Checked.fault_eq_ok_iff

lemma apart_of_ofMembers (h : ofMembers ms = .ok s) : s.Apart := by
  obtain ⟨-, -, -, -, hextras⟩ := ofMembers_eq_ok_iff.mp h
  refine ⟨?_, fun m hm => ?_⟩
  · rw [← hextras]
    exact (nodup_keys_settled ms).sublist (List.filter_sublist.map _)
  · rw [← hextras] at hm
    simpa using (List.mem_filter.mp hm).2

lemma nodup_keys_members (hs : s.Apart) : (s.members.map (·.1)).Nodup := by
  have hown : ownNames.Nodup := by decide
  rw [members, List.map_append]
  refine List.Nodup.append hown hs.distinct fun name hname hextra => ?_
  obtain ⟨m, hm, rfl⟩ := List.mem_map.mp hextra
  exact hs.foreign m hm hname

lemma filter_members (hs : s.Apart) :
    s.members.filter (fun m => !ownNames.contains m.1) = s.extras := by
  have hextras : s.extras.filter (fun m => !ownNames.contains m.1) = s.extras :=
    List.filter_eq_self.mpr fun m hm => by simpa using hs.foreign m hm
  rw [members, List.filter_append, hextras]
  rfl

lemma lookup_members_of_ofMembers (h : ofMembers ms = .ok s) (hname : name ∉ ownNames) :
    s.members.lookup name = (settled ms).lookup name := by
  have hother : (!ownNames.contains name) = true := by simpa using hname
  have hfilter (ms : List (String × Json)) :
      (ms.filter fun m => !ownNames.contains m.1).lookup name = ms.lookup name :=
    lookup_filter (p := fun name => !ownNames.contains name) hother
  obtain ⟨-, -, -, -, hextras⟩ := ofMembers_eq_ok_iff.mp h
  rw [← hfilter s.members, filter_members (apart_of_ofMembers h), ← hextras, hfilter]

lemma ofMembers_members (hs : s.Apart) : ofMembers s.members = .ok s := by
  have hextras : (settled s.members).filter (fun m => !ownNames.contains m.1) = s.extras := by
    rw [settled_eq_self (nodup_keys_members hs), filter_members hs]
  rw [ofMembers_eq_ok_iff]
  refine ⟨?_, ?_, ?_, ?_, hextras⟩
  · rw [memberOr_of_lookup (v := .text s.engine.name) rfl, engineAt_name]
  · rw [memberOr_of_lookup (v := .text s.level.name) rfl, levelAt_name]
  · rw [memberOr_of_lookup (v := .bool s.verbose) rfl, truthAt]
  · rw [memberOr_of_lookup (v := .text s.directory) rfl, textAt]

lemma ofJson_toJson (hs : s.Apart) : ofJson s.toJson = .ok s :=
  ofJson_eq_ok_iff.mpr (ofMembers_members hs)

lemma accepts_toJson (s : Settings) : Schema.settings.accepts s.toJson := by
  have hown {name : String} {schema : Schema} {v : Json} (hname : s.members.lookup name = some v)
      (hv : schema.accepts v) (u : Json) (hu : s.members.lookup name = some u) :
      schema.accepts u := by
    rwa [← Option.some.inj (hname.symm.trans hu)]
  have hengine : s.engine.name ∈ Engine.all.map Engine.name := by
    cases s.engine <;> decide
  have hlevel : s.level.name ∈ Level.all.map Level.name := by
    cases s.level <;> decide
  rw [Schema.settings, toJson, Schema.accepts_ofProperties_iff]
  refine ⟨?_, nofun, trivial⟩
  simp only [List.forall_mem_cons]
  refine ⟨hown rfl ?_, hown rfl ?_, hown rfl ?_, hown rfl ?_, List.forall_mem_nil _⟩
  · exact Schema.accepts_choice_iff.mpr ⟨_, hengine, rfl⟩
  · exact Schema.accepts_choice_iff.mpr ⟨_, hlevel, rfl⟩
  · exact Schema.accepts_ofKinds_iff.mpr (List.mem_singleton_self _)
  · exact Schema.accepts_ofKinds_iff.mpr (List.mem_singleton_self _)

end Settings

end MarkupQuery
