import MarkupQuery.Proofs.Loader.Session
import MarkupQuery.Proofs.Settings

namespace MarkupQuery

open Files Json

namespace Settings

def initial (directory : Path) : Settings := { default with directory := directory.toText }

lemma apart_initial (directory : Path) : (initial directory).Apart := ⟨List.nodup_nil, nofun⟩

lemma kept_toJson {s : Settings} (hs : s.Apart) (hextras : ∀ m ∈ s.extras, Kept m.2) :
    Kept s.toJson := by
  refine .object (nodup_keys_members hs) ?_
  simp only [members, List.forall_mem_append, List.forall_mem_cons]
  refine ⟨⟨?_, ?_, ?_, ?_, List.forall_mem_nil _⟩, hextras⟩
  · exact .scalar (legible_text s.engine.name)
  · exact .scalar (legible_text s.level.name)
  · exact .scalar (legible_bool s.verbose)
  · exact .scalar (legible_text s.directory)

end Settings

namespace Loader

variable {w : Workspace} {disk : Disk} {asked : Option Path} {s : Settings}

def settingsPath (l : Loader) (asked : Option Path) : Path :=
  asked.getD (l.directory.join settingsName)

lemma run_loadSettings_of_absent (h : w.disk.holds (w.loader.settingsPath asked) = false)
    (hwrite : w.disk.write (w.loader.settingsPath asked)
      (Settings.initial w.loader.directory).toJson.render = .ok disk) :
    (loadSettings asked).run w =
      (⟨disk, w.loader⟩, .ok (Settings.initial w.loader.directory)) := by
  rw [settingsPath] at h hwrite
  rw [Settings.initial] at hwrite
  simp [loadSettings, pathOr, h, run_writeJson, hwrite, Settings.initial]

lemma run_loadSettings_of_written (hs : s.Apart) (hextras : ∀ m ∈ s.extras, Kept m.2)
    (h : w.disk.read (w.loader.settingsPath asked) = .ok s.toJson.render) :
    (loadSettings asked).run w = (w, .ok s) := by
  have hjson : (readJson (w.loader.settingsPath asked)).run w = (w, .ok s.toJson) :=
    run_readJson h (read_unified_render (Settings.kept_toJson hs hextras))
  have hpath := Disk.holds_of_read h
  rw [settingsPath] at hjson hpath
  simp [loadSettings, pathOr, hpath, hjson, Settings.ofJson_toJson hs]

/-- Settings that an object makes are written in their schema and make themselves again, with the
members that they do not know. Settings that a load writes where it finds no file are those that
every loader loads from there, also one that is made in between. -/
theorem settings_roundtrip :
    (∀ ms s, Settings.ofJson (.object ms) = .ok s →
      Schema.settings.accepts s.toJson ∧ Settings.ofJson s.toJson = .ok s ∧
      ∀ name ∉ Settings.ownNames, s.members.lookup name = (settled ms).lookup name) ∧
    ∀ (w : Workspace) (asked : Option Path),
      w.disk.Enters (w.loader.settingsPath asked).parent →
      w.disk.holds (w.loader.settingsPath asked) = false →
      ∃ disk, (loadSettings asked).run w =
          (⟨disk, w.loader⟩, .ok (Settings.initial w.loader.directory)) ∧
        ∀ (l : Loader) again disk', l.settingsPath again = w.loader.settingsPath asked →
          Disk.Grown disk disk' → (loadSettings again).run ⟨disk', l⟩ =
            (⟨disk', l⟩, .ok (Settings.initial w.loader.directory)) := by
  refine ⟨fun ms s h => ?_, fun w asked henters habsent => ?_⟩
  · have hms := Settings.ofJson_eq_ok_iff.mp h
    exact ⟨Settings.accepts_toJson s, Settings.ofJson_toJson (Settings.apart_of_ofMembers hms),
      fun name hname => Settings.lookup_members_of_ofMembers hms hname⟩
  · obtain ⟨k, hk⟩ := henters.exists_locate
    obtain ⟨disk, hwrite⟩ := Disk.exists_write hk (Disk.isDirectory_of_not_holds habsent hk)
      (Settings.initial w.loader.directory).toJson.render
    refine ⟨disk, run_loadSettings_of_absent habsent hwrite, fun l again disk' hpath hgrown => ?_⟩
    apply run_loadSettings_of_written (Settings.apart_initial w.loader.directory) nofun
    rw [hpath]
    exact hgrown.read (Disk.read_of_write hwrite)

theorem settings_roundtrip_dotless :
    let ms : List (String × Json) := [("log_level", .text "crıtical"), ("verbose", .text "On"),
      ("theme", .list [.null, .int 3]), ("parser", .text "xml"), ("theme", .bool true)]
    let s : Settings := ⟨.xml, .critical, true, "config", [("theme", .bool true)]⟩
    let path : Path := ⟨["c", "extractor_config.json"]⟩
    let w : Workspace := ⟨⟨[["c"]], []⟩, ⟨⟨["config"]⟩, []⟩⟩
    (Settings.ofJson (.object ms) = .ok s ∧ Schema.settings.accepts s.toJson ∧
      Settings.ofJson s.toJson = .ok s ∧ s.members.lookup "theme" = (settled ms).lookup "theme") ∧
    ∃ disk, (loadSettings (some path)).run w = (⟨disk, w.loader⟩, .ok (.initial ⟨["config"]⟩)) ∧
      (loadSettings none).run ⟨disk, ⟨⟨["c"]⟩, []⟩⟩ =
        (⟨disk, ⟨⟨["c"]⟩, []⟩⟩, .ok (.initial ⟨["config"]⟩)) := by
  intro ms s path w
  -- The dotless i has the upper case of the other i, so the level is a known one.
  have hs : Settings.ofJson (.object ms) = .ok s := rfl
  obtain ⟨hmade, hloaded⟩ := settings_roundtrip
  obtain ⟨haccepts, hagain, hextras⟩ := hmade ms s hs
  obtain ⟨disk, hfirst, hsecond⟩ := hloaded w (some path) ⟨["c"], rfl, rfl⟩ rfl
  exact ⟨⟨hs, haccepts, hagain, hextras "theme" (by decide)⟩, disk, hfirst,
    hsecond ⟨⟨["c"]⟩, []⟩ none disk rfl .refl⟩

end Loader

end MarkupQuery
