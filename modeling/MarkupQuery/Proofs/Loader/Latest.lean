import MarkupQuery.Proofs.Loader.Failure

/-! What a loader answers from: the configurations that it loaded or saved last. A loader that knows
none looks into its default file, also where it knows none because its last load found none. -/

namespace MarkupQuery.Loader

open Extraction Files

variable {l : Loader} {w w' : Workspace} {disk : Disk} {directory : Path} {asked : Option Path}
  {request : Request} {name : String} {config : Config} {known M : List (String × Config)}
  {entries : List (String × Json)}

-- A loader after calls. Each finds the disk that is given with it, so between two calls anything
-- may happen to the files.
def after (l : Loader) (calls : List (Disk × Request)) : Loader :=
  calls.foldl (fun l c => (c.2.session.run ⟨c.1, l⟩).1.loader) l

def AnswersFrom (l : Loader) (M : List (String × Config)) : Prop :=
  ∀ (asked : List (Disk × String)) (disk : Disk) (name : String),
    let l := l.after (asked.map fun a => (a.1, .get a.2))
    (getExtractor name).run ⟨disk, l⟩ = (⟨disk, l⟩, .ok (M.lookup name))

lemma belongs_after (hl : Workspace.Belongs directory ⟨disk, l⟩) (calls : List (Disk × Request))
    (disk' : Disk) : Workspace.Belongs directory ⟨disk', l.after calls⟩ := by
  induction calls generalizing l disk with
  | nil => exact ⟨hl.home, hl.distinct⟩
  | cons c calls ih =>
    have hstep := keeps_session c.2 ⟨c.1, l⟩ ⟨hl.home, hl.distinct⟩
    exact ih hstep

lemma after_get (h : l.known ≠ []) (asked : List (Disk × String)) :
    l.after (asked.map fun a => (a.1, .get a.2)) = l := by
  induction asked with
  | nil => rfl
  | cons a asked ih =>
    have hget : (Request.get a.2).session.run ⟨a.1, l⟩ =
        (⟨a.1, l⟩, .ok (.found (l.known.lookup a.2))) := by
      simp [Request.session, run_getExtractor (w := ⟨a.1, l⟩) h]
    rw [List.map_cons, after, List.foldl_cons, hget]
    exact ih

lemma answersFrom_known (h : l.known ≠ []) : l.AnswersFrom l.known := by
  intro asked disk name
  rw [after_get h]
  exact run_getExtractor h

lemma known_of_run_addEntries
    (h : (addEntries known entries).run ⟨disk, ⟨directory, known⟩⟩ = (w', .ok M)) :
    w' = ⟨disk, ⟨directory, M⟩⟩ := by
  induction entries generalizing known with
  | nil =>
    rw [addEntries, Session.run_pure] at h
    obtain ⟨rfl, hM⟩ := Prod.mk.inj h
    rw [Except.ok.inj hM]
  | cons entry entries ih =>
    obtain ⟨name, v⟩ := entry
    rw [run_addEntries_cons] at h
    split at h
    · cases (Prod.mk.inj h).2
    · exact ih h

lemma known_of_run_loadExtractors (h : (loadExtractors asked).run w = (w', .ok M)) :
    w' = ⟨w.disk, ⟨w.loader.directory, M⟩⟩ := by
  cases hholds : w.disk.holds (w.loader.target asked) with
  | false =>
    rw [run_loadExtractors_of_absent hholds] at h
    obtain ⟨rfl, hM⟩ := Prod.mk.inj h
    rw [Except.ok.inj hM]
  | true =>
    have hrefill : (refill (w.loader.target asked)).run w = (w', .ok M) := by
      rw [← h]
      rw [target] at hholds
      simp [loadExtractors, pathOr, hholds, refill, target]
    obtain ⟨_, v, hv, hrefill⟩ := Session.exists_of_run_bind hrefill
    rw [run_readJson_eq] at hv
    obtain ⟨rfl, -⟩ := Prod.mk.inj hv
    obtain ⟨_, _, hforget, hrefill⟩ := Session.exists_of_run_bind hrefill
    obtain ⟨rfl, -⟩ := Prod.mk.inj hforget
    obtain ⟨_, entries, hentries, hrefill⟩ := Session.exists_of_run_bind hrefill
    obtain ⟨rfl, -⟩ := Prod.mk.inj hentries
    obtain ⟨v, known, hknown, hrefill⟩ := Session.exists_of_run_bind hrefill
    obtain rfl := known_of_run_addEntries hknown
    simp only [Session.run_bind, Session.run_report, Session.run_pure] at hrefill
    obtain ⟨rfl, hM⟩ := Prod.mk.inj hrefill
    rw [Except.ok.inj hM]

/-- A loader answers from the configurations that its last load found, if it found any, and from
those that its last save wrote, whatever it did before and whatever happens to the files. After a
load that found none it is as a new loader, which loads its default file before it answers. -/
theorem getExtractor_after (directory : Path) (calls : List (Disk × Request)) (disk : Disk) :
    let l := (⟨directory, []⟩ : Loader).after calls
    (∀ path w M, (loadExtractors path).run ⟨disk, l⟩ = (w, .ok M) →
      (M ≠ [] → w.loader.AnswersFrom M) ∧ (M = [] → w.loader = ⟨directory, []⟩)) ∧
    (∀ (request : Request) name path w config, request.target? = some (name, path) →
      request.session.run ⟨disk, l⟩ = (w, .ok (.saved config)) →
      ∃ M, configsAt w.disk (l.target path) = .ok M ∧ M.lookup name = some config ∧
        w.loader.AnswersFrom M) ∧
    ∀ name, (getExtractor name).run ⟨disk, ⟨directory, []⟩⟩ =
      (((loadExtractors none).run ⟨disk, ⟨directory, []⟩⟩).1,
        ((loadExtractors none).run ⟨disk, ⟨directory, []⟩⟩).2.map fun M => M.lookup name) := by
  intro l
  have hnew : Workspace.Belongs directory ⟨disk, ⟨directory, []⟩⟩ := ⟨rfl, List.nodup_nil⟩
  have hl : Workspace.Belongs directory ⟨disk, l⟩ := belongs_after hnew calls disk
  refine ⟨fun path w M hload => ?_, fun request name path w config htarget hsave => ?_,
    fun name => run_getExtractor_of_unknown rfl⟩
  · obtain rfl := known_of_run_loadExtractors hload
    refine ⟨fun hM => answersFrom_known hM, ?_⟩
    rintro rfl
    exact congrArg (Loader.mk · []) hl.home
  · obtain ⟨given, hgiven⟩ := exists_save_of_session htarget hsave
    obtain ⟨rfl, hdistinct, hname, hread⟩ := known_of_run_saved hl.distinct hgiven
    have hknown : w.loader.known ≠ [] := fun hnone => by simp [hnone] at hname
    exact ⟨w.loader.known, configsAt_of_read hread hdistinct, hname, answersFrom_known hknown⟩

theorem getExtractor_after_other_file :
    let row : Config := ⟨"tr", [], none, none, by decide, nofun, List.nodup_nil⟩
    let file : Path := ⟨["b.json"]⟩
    let disk : Disk := ⟨[["config"]], [(["b.json"], (fileOf [("a", row)]).render)]⟩
    let l := (⟨⟨["config"]⟩, []⟩ : Loader).after [(disk, .save "c" row none)]
    (∃ w, (loadExtractors (some file)).run ⟨disk, l⟩ = (w, .ok [("a", row)]) ∧
      w.loader.AnswersFrom [("a", row)]) ∧
    ∃ w, (Request.save "x" row (some file)).session.run ⟨disk, l⟩ = (w, .ok (.saved row)) ∧
      configsAt w.disk file = .ok [("c", row), ("x", row)] ∧
      w.loader.AnswersFrom [("c", row), ("x", row)] := by
  intro row file disk l
  obtain ⟨hloads, hsaves, -⟩ := getExtractor_after ⟨["config"]⟩ [(disk, .save "c" row none)] disk
  have hfile : configsAt disk file = .ok [("a", row)] := configsAt_of_read rfl (by decide)
  have hload : (loadExtractors (some file)).run ⟨disk, l⟩ = (_, .ok [("a", row)]) :=
    run_loadExtractors hfile
  obtain ⟨w, hsave, hread⟩ : ∃ w, (Request.save "x" row (some file)).session.run ⟨disk, l⟩ =
      (w, .ok (.saved row)) ∧ w.disk.read file = .ok (fileOf [("c", row), ("x", row)]).render :=
    ⟨_, rfl, rfl⟩
  have hwritten : configsAt w.disk file = .ok [("c", row), ("x", row)] :=
    configsAt_of_read hread (by decide)
  obtain ⟨M, hM, -, hanswers⟩ := hsaves _ "x" (some file) w row rfl hsave
  obtain rfl := Except.ok.inj (hwritten.symm.trans hM)
  exact ⟨⟨_, hload, (hloads _ _ _ hload).1 (by simp)⟩, w, hsave, hwritten, hanswers⟩

-- After a load from a file without entries a loader answers from its default file.
theorem not_getExtractor_answers_last_load : ¬ ∀ (directory : Path)
    (calls : List (Disk × Request)) (disk : Disk) (path : Option Path) (w : Workspace)
    (M : List (String × Config)) (name : String),
    (loadExtractors path).run ⟨disk, (⟨directory, []⟩ : Loader).after calls⟩ = (w, .ok M) →
    ((getExtractor name).run w).2 = .ok (M.lookup name) := by
  intro h
  let row : Config := ⟨"tr", [], none, none, by decide, nofun, List.nodup_nil⟩
  let disk : Disk := ⟨[["config"]], [(["config", "extractors.json"], (fileOf [("a", row)]).render),
    (["b.json"], (fileOf []).render)]⟩
  let new : Workspace := ⟨disk, ⟨⟨["config"]⟩, []⟩⟩
  have hnone : configsAt disk ⟨["b.json"]⟩ = .ok [] := configsAt_of_read rfl List.nodup_nil
  have hdefault : configsAt disk ⟨["config", "extractors.json"]⟩ = .ok [("a", row)] :=
    configsAt_of_read rfl (by decide)
  have hload : (loadExtractors (some ⟨["b.json"]⟩)).run new = (new, .ok []) :=
    run_loadExtractors hnone
  have hagain : (loadExtractors none).run new = (_, .ok [("a", row)]) := run_loadExtractors hdefault
  have hget := h ⟨["config"]⟩ [] disk (some ⟨["b.json"]⟩) new [] "a" hload
  rw [run_getExtractor_of_load rfl hagain] at hget
  cases hget

end MarkupQuery.Loader
