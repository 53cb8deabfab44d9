import MarkupQuery.Proofs.Loader.Validity

namespace MarkupQuery.Loader

open Extraction Files

variable {w w' : Workspace} {disk : Disk} {directory path : Path} {asked : Option Path}
  {known : List (String × Config)} {entries : List (String × Json)} {name : String} {v : Json}
  {fault : Fault}

def jsonAt (disk : Disk) (path : Path) : Except Fault Json :=
  (disk.read path).bind fun text => Json.read (String.ofList (unifyLines text.toList))

/-- How a load from a path fails, with the configurations that are known then. Those known before
are still known only where the file cannot be read; an entry that is no configuration leaves the
ones before it. -/
inductive LoadFails (w : Workspace) (path : Path) : Fault → List (String × Config) → Prop
  | unread {fault : Fault} (h : jsonAt w.disk path = .error fault) :
      LoadFails w path fault w.loader.known
  | unnamed {v : Json} {fault : Fault} (hv : jsonAt w.disk path = .ok v)
      (h : entriesOf v = .error fault) : LoadFails w path fault []
  | invalid {v u : Json} {before after : List (String × Json)} {name : String}
      {M : List (String × Config)} {fault : Fault} (hv : jsonAt w.disk path = .ok v)
      (hentries : entriesOf v = .ok (before ++ (name, u) :: after))
      (hbefore : configsOf [] before = .ok M) (h : Config.ofJson u = .error fault) :
      LoadFails w path fault M

lemma run_readJson_eq : (readJson path).run w = (w, jsonAt w.disk path) := by
  simp only [readJson, jsonAt, Session.run_bind, Session.run_workspace, Session.run_ofExcept]
  cases w.disk.read path with
  | error fault => rfl
  | ok text =>
    simp only [Except.bind]
    split
    · next v hv => rw [hv, Session.run_pure]
    · next fault hv => simp [hv]
    · next fault _ hv => rw [hv, Session.run_ofExcept]

lemma run_addEntries_cons : (addEntries known ((name, v) :: entries)).run
      ⟨disk, ⟨directory, known⟩⟩ =
    match Config.ofJson v with
    | .error fault => (⟨disk, ⟨directory, known⟩⟩, .error fault)
    | .ok config => (addEntries (assign name config known) entries).run
        ⟨disk, ⟨directory, assign name config known⟩⟩ := by
  cases hv : Config.ofJson v with
  | error fault => simp [addEntries, hv]
  | ok config => by_cases hnames : config.unknownNames = [] <;> simp [addEntries, hv, hnames]

lemma run_addEntries_eq_error_iff :
    (addEntries known entries).run ⟨disk, ⟨directory, known⟩⟩ = (w', .error fault) ↔
      ∃ before name v after M, entries = before ++ (name, v) :: after ∧
        configsOf known before = .ok M ∧ Config.ofJson v = .error fault ∧
        w' = ⟨disk, ⟨directory, M⟩⟩ := by
  induction entries generalizing known with
  | nil => simp [addEntries]
  | cons entry entries ih =>
    obtain ⟨name, v⟩ := entry
    rw [run_addEntries_cons]
    cases hv : Config.ofJson v with
    | error fault' =>
      constructor
      · intro h
        obtain ⟨rfl, hfault⟩ := Prod.mk.inj h
        exact ⟨[], name, v, entries, known, rfl, rfl, Except.error.inj hfault ▸ hv, rfl⟩
      · rintro ⟨before, name', u, after, M, hentries, hbefore, hu, rfl⟩
        cases before with
        | nil =>
          obtain ⟨⟨rfl, rfl⟩, rfl⟩ : (name = name' ∧ v = u) ∧ entries = after := by
            simpa using hentries
          obtain rfl := Except.ok.inj hbefore
          rw [hv] at hu
          rw [Except.error.inj hu]
        | cons _ before =>
          obtain ⟨rfl, rfl⟩ := List.cons.inj hentries
          simp [configsOf, hv, Except.bind] at hbefore
    | ok config =>
      rw [ih]
      constructor
      · rintro ⟨before, name', u, after, M, rfl, hbefore, hu, rfl⟩
        refine ⟨(name, v) :: before, name', u, after, M, rfl, ?_, hu, rfl⟩
        rw [configsOf, hv]
        exact hbefore
      · rintro ⟨before, name', u, after, M, hentries, hbefore, hu, rfl⟩
        cases before with
        | nil =>
          obtain ⟨⟨rfl, rfl⟩, rfl⟩ : (name = name' ∧ v = u) ∧ entries = after := by
            simpa using hentries
          rw [hv] at hu
          cases hu
        | cons _ before =>
          obtain ⟨rfl, rfl⟩ := List.cons.inj hentries
          rw [configsOf, hv] at hbefore
          exact ⟨before, name', u, after, M, rfl, hbefore, hu, rfl⟩

def refill (path : Path) : Session (List (String × Config)) := do
  let v ← readJson path
  Session.remember []
  let entries ← Session.ofExcept (entriesOf v)
  let known ← addEntries [] entries
  report .info ("Загружено конфигураций извлечения: " ++ toString known.length)
  return known

lemma run_refill_eq_error_iff : (refill path).run w = (w', .error fault) ↔
    ∃ known, LoadFails w path fault known ∧ w' = ⟨w.disk, ⟨w.loader.directory, known⟩⟩ := by
  have hstages : (refill path).run w = (w', .error fault) ↔
      w = w' ∧ jsonAt w.disk path = .error fault ∨ ∃ v, jsonAt w.disk path = .ok v ∧
        (⟨w.disk, ⟨w.loader.directory, []⟩⟩ = w' ∧ entriesOf v = .error fault ∨
          ∃ entries, entriesOf v = .ok entries ∧
            (addEntries [] entries).run ⟨w.disk, ⟨w.loader.directory, []⟩⟩ =
              (w', .error fault)) := by
    simp [refill, -Session.run_bind, Session.run_bind_eq_error_iff, run_readJson_eq]
  rw [hstages]
  constructor
  · rintro (⟨rfl, h⟩ | ⟨v, hv, ⟨rfl, h⟩ | ⟨entries, hentries, h⟩⟩)
    · exact ⟨_, .unread h, rfl⟩
    · exact ⟨[], .unnamed hv h, rfl⟩
    · obtain ⟨before, name, u, after, M, rfl, hbefore, hu, rfl⟩ := run_addEntries_eq_error_iff.mp h
      exact ⟨M, .invalid hv hentries hbefore hu, rfl⟩
  · rintro ⟨known, hfails, rfl⟩
    cases hfails with
    | unread h => exact .inl ⟨rfl, h⟩
    | unnamed hv h => exact .inr ⟨_, hv, .inl ⟨rfl, h⟩⟩
    | invalid hv hentries hbefore hu =>
      refine .inr ⟨_, hv, .inr ⟨_, hentries, run_addEntries_eq_error_iff.mpr ?_⟩⟩
      exact ⟨_, _, _, _, _, rfl, hbefore, hu, rfl⟩

/-- A load fails exactly where there is something at the path that is no file of configurations.
It changes nothing on the disk, but after it the loader knows what was read up to the fault. -/
theorem run_loadExtractors_eq_error_iff :
    (loadExtractors asked).run w = (w', .error fault) ↔
      w.disk.holds (w.loader.target asked) ∧
        ∃ known, LoadFails w (w.loader.target asked) fault known ∧
          w' = ⟨w.disk, ⟨w.loader.directory, known⟩⟩ := by
  rw [← run_refill_eq_error_iff]
  have hload : (loadExtractors asked).run w =
      if w.disk.holds (w.loader.target asked) then (refill (w.loader.target asked)).run w
      else (⟨w.disk, ⟨w.loader.directory, []⟩⟩, .ok []) := by
    split
    · next h =>
      rw [target] at h
      simp [loadExtractors, pathOr, h, refill, target]
    · next h => exact run_loadExtractors_of_absent (by simpa using h)
  rw [hload]
  split
  · next h => simp [h]
  · next h => simp [h]

-- A loader that fails to load a file forgets what it knew before, and answers from the entries of
-- that file.
theorem Scene.not_failed_load_preserves : ¬ ∀ (disk : Disk) (events : List Event) (i : Nat)
    (path : Option Path) (l : Loader) (s' : Scene) (fault : Fault),
    (run ⟨disk, []⟩ events).loaders[i]? = some l →
    (run ⟨disk, []⟩ events).call i (.load path) = some (s', .error fault) →
    s'.loaders[i]? = some l := by
  intro h
  -- The file that is loaded holds a configuration `x` before an entry that is none.
  let row : Config := ⟨"tr", [], none, none, by decide, by simp, List.nodup_nil⟩
  let entries : Json := .object [("x", row.stored), ("y", .null)]
  let disk : Disk := ⟨[], [(["b.json"], (Json.object [("extractors", entries)]).render)]⟩
  let events : List Event := [.create ⟨[]⟩, .call 0 (.save "a" row none)]
  let s : Scene := run ⟨disk, []⟩ events
  let names (s : Scene) : Option (List String) := s.loaders[0]?.map fun l => l.known.map (·.1)
  have hload : (s.call 0 (.load (some ⟨["b.json"]⟩))).map (fun r => (names r.1, r.2)) =
      some (some ["x"], .error .notFields) := by decide +kernel
  obtain ⟨⟨s', outcome⟩, hcall, hs'⟩ := Option.map_eq_some_iff.mp hload
  obtain ⟨hnames, rfl⟩ := Prod.mk.inj hs'
  have hkept := h disk events 0 (some ⟨["b.json"]⟩) ⟨⟨[]⟩, [("a", row)]⟩ s' .notFields rfl hcall
  simp [names, hkept] at hnames

end MarkupQuery.Loader
