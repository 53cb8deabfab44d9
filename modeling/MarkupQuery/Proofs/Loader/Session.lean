import Mathlib.Tactic.Lemma
import MarkupQuery.Loader.Configs
import MarkupQuery.Proofs.Extraction.Stored
import MarkupQuery.Proofs.Files.Disk
import MarkupQuery.Proofs.Trace

namespace MarkupQuery

open Extraction Files Text

variable {α γ : Type} {w w' : Workspace} {m : Session α}

namespace Session

def run (m : Session α) (w : Workspace) : Workspace × Except Fault α := ((m w).1, (m w).2.outcome)

@[simp] lemma run_pure (a : α) : run (Pure.pure a) w = (w, .ok a) := rfl

@[simp] lemma run_bind (f : α → Session γ) : run (m >>= f) w =
    match m.run w with
    | (w, .ok a) => (f a).run w
    | (w, .error fault) => (w, .error fault) := by
  change ((Session.bind m f w).1, (Session.bind m f w).2.outcome) = _
  simp only [Session.bind, run]
  cases (m w).2.outcome <;> rfl

lemma exists_of_run_bind {f : α → Session γ} {c : γ} (h : run (m >>= f) w = (w', .ok c)) :
    ∃ v a, m.run w = (v, .ok a) ∧ (f a).run v = (w', .ok c) := by
  rw [run_bind] at h
  split at h
  · next v a hm => exact ⟨v, a, hm, h⟩
  · cases (Prod.mk.inj h).2

lemma run_bind_eq_error_iff {f : α → Session γ} {fault : Fault} :
    (m >>= f).run w = (w', .error fault) ↔ m.run w = (w', .error fault) ∨
      ∃ v a, m.run w = (v, .ok a) ∧ (f a).run v = (w', .error fault) := by
  rw [run_bind]
  obtain ⟨v, outcome⟩ := m.run w
  cases outcome <;> simp

@[simp] lemma run_ofExcept (r : Except Fault α) : (ofExcept r).run w = (w, r) := rfl

@[simp] lemma run_workspace : workspace.run w = (w, .ok w) := rfl

@[simp] lemma run_remember (known : List (String × Config)) :
    (remember known).run w = (⟨w.disk, ⟨w.loader.directory, known⟩⟩, .ok ()) := rfl

@[simp] lemma run_setDisk (disk : Disk) : (setDisk disk).run w = (⟨disk, w.loader⟩, .ok ()) := rfl

@[simp] lemma run_report (level : Level) (message : String) :
    (Loader.report level message).run w = (w, .ok ()) := rfl

end Session

namespace Loader

variable {disk disk' : Disk} {directory path : Path} {known M : List (String × Config)}
  {entries : List (String × Json)} {name : String} {config : Config}

def configsOf (known : List (String × Config)) :
    List (String × Json) → Except Fault (List (String × Config))
  | [] => .ok known
  | (name, v) :: entries =>
    (Config.ofJson v).bind fun config => configsOf (assign name config known) entries

def configsAt (disk : Disk) (path : Path) : Except Fault (List (String × Config)) :=
  (disk.read path).bind fun text =>
    (Json.read (String.ofList (unifyLines text.toList))).bind fun v =>
      (entriesOf v).bind (configsOf [])

def target (l : Loader) (path : Option Path) : Path := path.getD (l.directory.join extractorsName)

lemma unifyLines_eq_self {cs : List Char} (h : '\r' ∉ cs) : unifyLines cs = cs := by
  induction cs with
  | nil => rfl
  | cons c cs ih =>
    obtain ⟨hc, hcs⟩ := not_or.mp (mt List.mem_cons.mpr h)
    rw [unifyLines]
    · simp [ih hcs, Ne.symm hc]
    · rintro rest rfl
      exact absurd rfl hc

lemma nodup_configsOf (hknown : (known.map (·.1)).Nodup) (h : configsOf known entries = .ok M) :
    (M.map (·.1)).Nodup := by
  induction entries generalizing known with
  | nil => exact Except.ok.inj h ▸ hknown
  | cons entry entries ih =>
    obtain ⟨name, v⟩ := entry
    obtain ⟨config, -, h⟩ := exists_of_bind h
    exact ih (nodup_keys_assign name config known hknown) h

lemma nodup_configsAt (h : configsAt disk path = .ok M) : (M.map (·.1)).Nodup := by
  obtain ⟨text, -, h⟩ := exists_of_bind h
  obtain ⟨v, -, h⟩ := exists_of_bind h
  obtain ⟨entries, -, h⟩ := exists_of_bind h
  have hnone : (([] : List (String × Config)).map (·.1)).Nodup := List.nodup_nil
  exact nodup_configsOf hnone h

lemma configsOf_stored (ms : List (String × Config)) :
    configsOf known (ms.map fun k => (k.1, k.2.stored)) =
      .ok (ms.foldl (fun settled m => assign m.1 m.2 settled) known) := by
  induction ms generalizing known with
  | nil => rfl
  | cons m ms ih =>
    rw [List.map_cons, configsOf, Config.ofJson_stored]
    exact ih

lemma kept_fileOf (h : (known.map (·.1)).Nodup) : (fileOf known).Kept := by
  have hentries : Json.Kept (.object (known.map fun k => (k.1, k.2.stored))) := by
    refine .object (by simpa [Function.comp_def] using h) fun m hm => ?_
    obtain ⟨k, -, rfl⟩ := List.mem_map.mp hm
    exact k.2.kept_stored
  exact .object (List.nodup_singleton _) (List.forall_mem_singleton.mpr hentries)

lemma read_unified_render {ms : List (String × Json)} (h : Json.Kept (.object ms)) :
    Json.read (String.ofList (unifyLines (Json.object ms).render.toList)) = .ok (.object ms) := by
  rw [Json.render, String.toList_ofList, unifyLines_eq_self (h.unbroken 0)]
  exact Json.read_render h

lemma read_fileOf (hknown : (known.map (·.1)).Nodup) :
    Json.read (String.ofList (unifyLines (fileOf known).render.toList)) = .ok (fileOf known) :=
  read_unified_render (kept_fileOf hknown)

lemma configsAt_of_read (h : disk.read path = .ok (fileOf known).render)
    (hknown : (known.map (·.1)).Nodup) : configsAt disk path = .ok known := by
  have hentries : configsOf [] (known.map fun k => (k.1, k.2.stored)) = .ok known :=
    (configsOf_stored known).trans (congrArg _ (settled_eq_self hknown))
  rw [configsAt, h, Except.bind, read_fileOf hknown]
  exact hentries

lemma run_readJson {text : String} {v : Json} (htext : w.disk.read path = .ok text)
    (hv : Json.read (String.ofList (unifyLines text.toList)) = .ok v) :
    (readJson path).run w = (w, .ok v) := by
  simp [readJson, htext, hv]

lemma run_addEntries (h : configsOf known entries = .ok M) :
    (addEntries known entries).run ⟨disk, ⟨directory, known⟩⟩ =
      (⟨disk, ⟨directory, M⟩⟩, .ok M) := by
  induction entries generalizing known with
  | nil =>
    obtain rfl := Except.ok.inj h
    rfl
  | cons entry entries ih =>
    obtain ⟨name, v⟩ := entry
    obtain ⟨config, hconfig, h⟩ := exists_of_bind h
    by_cases hnames : config.unknownNames = [] <;> simp [addEntries, hconfig, hnames, ih h]

lemma holds_of_configsAt (h : configsAt disk path = .ok M) : disk.holds path := by
  obtain ⟨text, htext, -⟩ := exists_of_bind h
  exact Disk.holds_of_read htext

lemma run_loadExtractors {path : Option Path}
    (h : configsAt w.disk (w.loader.target path) = .ok M) :
    (loadExtractors path).run w = (⟨w.disk, ⟨w.loader.directory, M⟩⟩, .ok M) := by
  obtain ⟨text, htext, h⟩ := exists_of_bind h
  obtain ⟨v, hv, h⟩ := exists_of_bind h
  obtain ⟨entries, hentries, h⟩ := exists_of_bind h
  have hread := run_readJson htext hv
  rw [target] at htext hread
  simp [loadExtractors, pathOr, Disk.holds_of_read htext, hread, hentries, run_addEntries h]

lemma run_loadExtractors_of_absent {path : Option Path}
    (h : w.disk.holds (w.loader.target path) = false) :
    (loadExtractors path).run w = (⟨w.disk, ⟨w.loader.directory, []⟩⟩, .ok []) := by
  rw [target] at h
  simp [loadExtractors, pathOr, h]

-- The configurations that a save to a path adds to: those that are known, or those of the file
-- where none are known.
inductive Recalls (w : Workspace) (path : Path) : List (String × Config) → Prop
  | remembered (h : w.loader.known ≠ []) : Recalls w path w.loader.known
  | loaded {M : List (String × Config)} (h : w.loader.known = [])
    (hM : configsAt w.disk path = .ok M) : Recalls w path M
  | absent (h : w.loader.known = []) (hpath : w.disk.holds path = false) : Recalls w path []

lemma run_writeJson (v : Json) : (writeJson path v).run w =
    match w.disk.write path v.render with
    | .ok disk => (⟨disk, w.loader⟩, .ok ())
    | .error fault => (w, .error fault) := by
  cases h : w.disk.write path v.render <;> simp [writeJson, h]

def store (path : Path) (name : String) (config : Config) : Session Config := do
  let w ← Session.workspace
  let known := w.loader.known
  report .debug
    ((if known.any (·.1 == name) then "Обновлена" else "Добавлена") ++
      " конфигурация извлечения " ++ name)
  Session.remember (assign name config known)
  writeJson path (fileOf (assign name config known))
  return config

lemma saveExtractor_eq (name : String) (config : Config) (path : Option Path) :
    saveExtractor name config path = (do
      let path ← pathOr path extractorsName
      let w ← Session.workspace
      if w.loader.known.isEmpty && w.disk.holds path then
        let _ ← loadExtractors (some path)
        store path name config
      else store path name config) :=
  rfl

lemma run_store : (store path name config).run w =
    match w.disk.write path (fileOf (assign name config w.loader.known)).render with
    | .ok disk => (⟨disk, ⟨w.loader.directory, assign name config w.loader.known⟩⟩, .ok config)
    | .error fault =>
      (⟨w.disk, ⟨w.loader.directory, assign name config w.loader.known⟩⟩, .error fault) := by
  simp only [store, Session.run_bind, Session.run_workspace, Session.run_report,
    Session.run_remember, run_writeJson]
  cases w.disk.write path (fileOf (assign name config w.loader.known)).render <;> rfl

lemma run_saveExtractor {path : Option Path} (h : Recalls w (w.loader.target path) known) :
    (saveExtractor name config path).run w =
      match w.disk.write (w.loader.target path) (fileOf (assign name config known)).render with
      | .ok disk => (⟨disk, ⟨w.loader.directory, assign name config known⟩⟩, .ok config)
      | .error fault =>
        (⟨w.disk, ⟨w.loader.directory, assign name config known⟩⟩, .error fault) := by
  suffices hrecalled : (saveExtractor name config path).run w =
      (store (w.loader.target path) name config).run ⟨w.disk, ⟨w.loader.directory, known⟩⟩ by
    rw [hrecalled, run_store]
  rw [saveExtractor_eq]
  cases h with
  | remembered h => simp [pathOr, h, target]
  | loaded h hM =>
    have hload : (loadExtractors (some (w.loader.target path))).run w =
        (⟨w.disk, ⟨w.loader.directory, _⟩⟩, .ok _) := run_loadExtractors hM
    have hpath := holds_of_configsAt hM
    rw [target] at hpath hload
    simp [pathOr, h, hpath, hload, target]
  | absent h hpath =>
    obtain ⟨disk, directory, known⟩ := w
    subst h
    rw [target] at hpath
    simp [pathOr, hpath, target]

lemma run_saveValue_of_invalid {v : Json} {path : Option Path} {fault : Fault}
    (h : Config.ofJson v = .error fault) : (saveValue name v path).run w = (w, .error fault) := by
  simp [saveValue, h]

lemma run_saveValue {v : Json} {path : Option Path} (h : Config.ofJson v = .ok config) :
    (saveValue name v path).run w = (saveExtractor name config path).run w := by
  simp [saveValue, h]

lemma run_getExtractor (h : w.loader.known ≠ []) :
    (getExtractor name).run w = (w, .ok (w.loader.known.lookup name)) := by
  simp [getExtractor, ensureKnown, h]

lemma run_getExtractor_of_unknown (h : w.loader.known = []) :
    (getExtractor name).run w =
      (((loadExtractors none).run w).1,
        ((loadExtractors none).run w).2.map fun M => M.lookup name) := by
  simp only [getExtractor, ensureKnown, Session.run_bind, Session.run_workspace, h,
    List.isEmpty_nil, if_true]
  obtain ⟨w', outcome⟩ := (loadExtractors none).run w
  cases outcome <;> rfl

lemma run_getExtractor_of_load (h : w.loader.known = [])
    (hload : (loadExtractors none).run w = (w', .ok M)) :
    (getExtractor name).run w = (w', .ok (M.lookup name)) := by
  rw [run_getExtractor_of_unknown h, hload]
  rfl

end Loader

namespace Session

def Keeps (P : Workspace → Prop) (m : Session α) : Prop := ∀ w, P w → P (m.run w).1

variable {P : Workspace → Prop} {f : α → Session γ}

lemma Keeps.of_unchanged (h : ∀ w, (m.run w).1 = w) : Keeps P m := by
  intro w hw
  rwa [h]

lemma Keeps.of_run (hm : Keeps P m) (hw : P w) {outcome : Except Fault α}
    (h : m.run w = (w', outcome)) : P w' := by
  have hkept := hm w hw
  rwa [h] at hkept

lemma Keeps.bind (hm : Keeps P m) (hf : ∀ a, Keeps P (f a)) : Keeps P (m >>= f) := by
  intro w hw
  rw [run_bind]
  have hleft := hm w hw
  split
  · next w' a h =>
    rw [h] at hleft
    exact hf a w' hleft
  · next w' fault h =>
    rwa [h] at hleft

lemma Keeps.workspace_bind {f : Workspace → Session γ} (hf : ∀ w, P w → Keeps P (f w)) :
    Keeps P (workspace >>= f) :=
  fun w hw => hf w hw w hw

end Session

def Workspace.Distinct (w : Workspace) : Prop := (w.loader.known.map (·.1)).Nodup

structure Workspace.Belongs (directory : Path) (w : Workspace) : Prop where
  home : w.loader.directory = directory
  distinct : w.Distinct

namespace Loader

variable {directory : Path} {known : List (String × Config)} {path : Option Path}

lemma keeps_remember (h : (known.map (·.1)).Nodup) :
    Session.Keeps (Workspace.Belongs directory) (Session.remember known) :=
  fun _ hw => ⟨hw.home, h⟩

lemma keeps_pathOr (name : String) :
    Session.Keeps (Workspace.Belongs directory) (pathOr path name) :=
  .of_unchanged fun _ => rfl

lemma keeps_readJson (path : Path) :
    Session.Keeps (Workspace.Belongs directory) (readJson path) := by
  refine .workspace_bind fun w _ => .bind (.of_unchanged fun _ => rfl) fun text => ?_
  split
  · exact .of_unchanged fun _ => rfl
  · exact .bind (.of_unchanged fun _ => rfl) fun _ => .of_unchanged fun _ => rfl
  · exact .of_unchanged fun _ => rfl

lemma keeps_writeJson (path : Path) (v : Json) :
    Session.Keeps (Workspace.Belongs directory) (writeJson path v) := by
  intro w hw
  rw [run_writeJson]
  split <;> exact ⟨hw.home, hw.distinct⟩

lemma keeps_addEntries (entries : List (String × Json)) (h : (known.map (·.1)).Nodup) :
    Session.Keeps (Workspace.Belongs directory) (addEntries known entries) := by
  induction entries generalizing known with
  | nil => exact .of_unchanged fun _ => rfl
  | cons entry entries ih =>
    obtain ⟨name, v⟩ := entry
    refine .bind (.of_unchanged fun _ => rfl) fun config => ?_
    have hnext := nodup_keys_assign name config known h
    have hrest : Session.Keeps (Workspace.Belongs directory) (do
        Session.remember (assign name config known)
        addEntries (assign name config known) entries) :=
      .bind (keeps_remember hnext) fun _ => ih hnext
    split
    · exact .bind (.of_unchanged fun _ => rfl) fun _ => hrest
    · exact hrest

lemma keeps_loadExtractors :
    Session.Keeps (Workspace.Belongs directory) (loadExtractors path) := by
  refine .bind (keeps_pathOr extractorsName) fun p => .workspace_bind fun w _ => ?_
  have hnone : (([] : List (String × Config)).map (·.1)).Nodup := List.nodup_nil
  split
  · refine .bind (keeps_readJson p) fun v => .bind (keeps_remember hnone) fun _ => ?_
    refine .bind (.of_unchanged fun _ => rfl) fun entries => ?_
    exact .bind (keeps_addEntries entries hnone) fun _ => .of_unchanged fun _ => rfl
  · exact .bind (.of_unchanged fun _ => rfl) fun _ =>
      .bind (keeps_remember hnone) fun _ => .of_unchanged fun _ => rfl

lemma keeps_getExtractor (name : String) :
    Session.Keeps (Workspace.Belongs directory) (getExtractor name) := by
  refine .bind (.workspace_bind fun w _ => ?_) fun _ => .of_unchanged fun _ => rfl
  split
  · exact keeps_loadExtractors
  · exact .of_unchanged fun _ => rfl

lemma keeps_store (path : Path) (name : String) (config : Config) :
    Session.Keeps (Workspace.Belongs directory) (store path name config) := by
  refine .workspace_bind fun w hw => .bind (.of_unchanged fun _ => rfl) fun _ => ?_
  refine .bind (keeps_remember (nodup_keys_assign name config _ hw.distinct)) fun _ => ?_
  exact .bind (keeps_writeJson path _) fun _ => .of_unchanged fun _ => rfl

lemma keeps_saveExtractor (name : String) (config : Config) :
    Session.Keeps (Workspace.Belongs directory) (saveExtractor name config path) := by
  rw [saveExtractor_eq]
  refine .bind (keeps_pathOr extractorsName) fun p => .workspace_bind fun w _ => ?_
  split
  · exact .bind keeps_loadExtractors fun _ => keeps_store p name config
  · exact keeps_store p name config

end Loader

end MarkupQuery
