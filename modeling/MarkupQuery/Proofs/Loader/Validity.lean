import MarkupQuery.Proofs.Loader.Scene
import MarkupQuery.Proofs.Schema.Extraction

namespace MarkupQuery

open Extraction Files Text

namespace Schema

lemma accepts_stored (c : Config) : extraction.accepts c.stored := by
  obtain ⟨ms, hms, hrows, hfields, hskip, hrepeated, hnames⟩ := c.exists_stored_members
  rw [hms, accepts_extraction_iff]
  exact ⟨filled_of_lookup hrows hfields hskip hrepeated, hnames⟩

lemma accepts_fileOf (known : List (String × Config)) :
    extractors.accepts (Loader.fileOf known) := by
  rw [extractors, Loader.fileOf, accepts_ofProperties_iff]
  refine ⟨?_, ?_, trivial⟩
  · rintro _ hp u hu
    obtain rfl := List.mem_singleton.mp hp
    obtain rfl := Option.some.inj hu
    refine accepts_each_iff.mpr ⟨_, rfl, fun m hm => ?_⟩
    obtain ⟨k, -, rfl⟩ := List.mem_map.mp hm
    exact accepts_stored k.2
  · simp

end Schema

namespace Loader

variable {w w' : Workspace} {path : Option Path} {name : String} {config saved : Config}
  {known : List (String × Config)}

lemma known_of_run_store {p : Path} (hw : w.Distinct)
    (h : (store p name config).run w = (w', .ok saved)) :
    saved = config ∧ w'.Distinct ∧ w'.loader.known.lookup name = some config ∧
      w'.disk.read p = .ok (fileOf w'.loader.known).render := by
  rw [run_store] at h
  split at h
  · next disk hwrite =>
    obtain ⟨rfl, hsaved⟩ := Prod.mk.inj h
    exact ⟨(Except.ok.inj hsaved).symm, nodup_keys_assign name config _ hw,
      lookup_assign_self name config _, Disk.read_of_write hwrite⟩
  · cases (Prod.mk.inj h).2

lemma known_of_run_saved (hw : w.Distinct)
    (h : (saveExtractor name config path).run w = (w', .ok saved)) :
    saved = config ∧ w'.Distinct ∧ w'.loader.known.lookup name = some config ∧
      w'.disk.read (w.loader.target path) = .ok (fileOf w'.loader.known).render := by
  rw [saveExtractor_eq] at h
  obtain ⟨v, p, hp, h⟩ := Session.exists_of_run_bind h
  obtain ⟨rfl, rfl⟩ : w = v ∧ w.loader.target path = p := by
    obtain ⟨hv, hp⟩ := Prod.mk.inj hp
    exact ⟨hv, Except.ok.inj hp⟩
  obtain ⟨v, u, hu, h⟩ := Session.exists_of_run_bind h
  obtain rfl : w = v := (Prod.mk.inj hu).1
  split at h
  · -- Nothing was known, so the save adds to what the file holds.
    obtain ⟨v, M, hload, h⟩ := Session.exists_of_run_bind h
    have hv : v.Belongs w.loader.directory := keeps_loadExtractors.of_run ⟨rfl, hw⟩ hload
    exact known_of_run_store hv.distinct h
  · exact known_of_run_store hw h

lemma exists_of_run_saved (hw : w.Distinct)
    (h : (saveExtractor name config path).run w = (w', .ok saved)) :
    saved = config ∧ ∃ known, (known.map (·.1)).Nodup ∧ known.lookup name = some config ∧
      w'.disk.read (w.loader.target path) = .ok (fileOf known).render := by
  obtain ⟨hsaved, hknown⟩ := known_of_run_saved hw h
  exact ⟨hsaved, _, hknown⟩

/-- Whether a file can be read back as a valid file of configurations with a certain one under a
name, and loaded by any loader that begins anew. -/
def Valid (disk : Disk) (path : Path) (name : String) (config : Config) : Prop :=
  ∃ text v M, disk.read path = .ok text ∧
    Json.read (String.ofList (unifyLines text.toList)) = .ok v ∧ Schema.extractors.accepts v ∧
    M.lookup name = some config ∧
    ∀ directory fresh, create disk directory = .ok fresh →
      ((loadExtractors (some path)).run fresh).2 = .ok M

lemma valid_of_read {disk : Disk} {p : Path} (hknown : (known.map (·.1)).Nodup)
    (hname : known.lookup name = some config)
    (hread : disk.read p = .ok (fileOf known).render) : Valid disk p name config := by
  refine ⟨_, fileOf known, known, hread, read_fileOf hknown, Schema.accepts_fileOf known, hname,
    fun directory fresh hfresh => ?_⟩
  obtain ⟨made, hmade, rfl⟩ := exists_of_map hfresh
  obtain ⟨hgrown, -, -⟩ := Disk.makeDirectories_grown hmade
  have hfile : configsAt made p = .ok known := configsAt_of_read (hgrown.read hread) hknown
  have hload : (loadExtractors (some p)).run ⟨made, ⟨directory, []⟩⟩ =
      (⟨made, ⟨directory, known⟩⟩, .ok known) := run_loadExtractors hfile
  rw [hload]

/-- Whatever loaders of a disk did before, and whatever its files held, a save that succeeds
leaves a valid file. -/
theorem Scene.valid_of_save (disk : Disk) (events : List Event) (i : Nat) (request : Request)
    (l : Loader) (s' : Scene) (name : String) (path : Option Path) (config : Config)
    (hl : (run ⟨disk, []⟩ events).loaders[i]? = some l)
    (htarget : request.target? = some (name, path))
    (hcall : (run ⟨disk, []⟩ events).call i request = some (s', .ok (.saved config))) :
    Valid s'.disk (l.target path) name config := by
  have hnone : Distinct ⟨disk, []⟩ := List.forall_mem_nil _
  have hdistinct : (run ⟨disk, []⟩ events).Distinct := distinct_run hnone events
  obtain ⟨l', w, hl', hrun, rfl⟩ := exists_of_call hcall
  obtain rfl : l = l' := Option.some.inj (hl.symm.trans hl')
  have hknown : Workspace.Distinct ⟨(run ⟨disk, []⟩ events).disk, l⟩ :=
    hdistinct l (List.mem_of_getElem? hl)
  obtain ⟨given, hsave⟩ := exists_save_of_session htarget hrun
  obtain ⟨rfl, known, hnodup, hname, hread⟩ := exists_of_run_saved hknown hsave
  exact valid_of_read hnodup hname hread

theorem Scene.valid_of_save_partly :
    let row : Config := ⟨"tr", [], none, none, by decide, nofun, List.nodup_nil⟩
    let file : Path := ⟨["b.json"]⟩
    let entries : Json := .object [("a", row.stored), ("b", .null)]
    let disk : Disk := ⟨[], [(["b.json"], (Json.object [("extractors", entries)]).render)]⟩
    let made : Scene := run ⟨disk, []⟩ [.create ⟨[]⟩]
    let s : Scene := run ⟨disk, []⟩ [.create ⟨[]⟩, .call 0 (.load (some file))]
    (made.call 0 (.load (some file))).map (·.2) = some (.error .notFields) ∧
    ∃ s', s.call 0 (.save "c" row (some file)) = some (s', .ok (.saved row)) ∧
      Valid s'.disk file "c" row := by
  intro row file entries disk made s
  have hload : (made.call 0 (.load (some file))).map (·.2) = some (.error .notFields) := by
    decide +kernel
  have hsaved : (s.call 0 (.save "c" row (some file))).map (·.2) = some (.ok (.saved row)) := by
    decide +kernel
  obtain ⟨⟨s', outcome⟩, hcall, rfl⟩ := Option.map_eq_some_iff.mp hsaved
  obtain ⟨l, w, hl, -, -⟩ := exists_of_call hcall
  have hvalid : Valid s'.disk (l.target (some file)) "c" row :=
    valid_of_save disk _ 0 (.save "c" row (some file)) l s' "c" (some file) row hl rfl hcall
  exact ⟨hload, s', hcall, hvalid⟩

end Loader

end MarkupQuery
