import MarkupQuery.Proofs.Loader.Scene

namespace MarkupQuery.Loader

open Extraction Files

variable {σ τ : Type} {disk : Disk} {directory path : Path} {w w' : Workspace}
  {M : List (String × Config)} {request : Request} {rs : List Request} {asked : Option Path}

def outcomes (step : Request → σ → σ × Except Fault Answer) (s : σ) :
    List Request → σ × List (Except Fault Answer)
  | [] => (s, [])
  | r :: rs =>
    let (s, outcome) := step r s
    let (s, rest) := outcomes step s rs
    (s, outcome :: rest)

lemma outcomes_related {R : σ → τ → Prop} {step : Request → σ → σ × Except Fault Answer}
    {step' : Request → τ → τ × Except Fault Answer} {s : σ} {t : τ}
    (hstep : ∀ r ∈ rs, ∀ s t, R s t → R (step r s).1 (step' r t).1 ∧ (step r s).2 = (step' r t).2)
    (h : R s t) : R (outcomes step s rs).1 (outcomes step' t rs).1 ∧
      (outcomes step s rs).2 = (outcomes step' t rs).2 := by
  induction rs generalizing s t with
  | nil => exact ⟨h, rfl⟩
  | cons r rs ih =>
    obtain ⟨hr, hrs⟩ := List.forall_mem_cons.mp hstep
    obtain ⟨hnext, houtcome⟩ := hr s t h
    obtain ⟨hlast, hrest⟩ := ih hrs hnext
    exact ⟨hlast, congrArg₂ List.cons houtcome hrest⟩

namespace Request

def path? : Request → Option Path
  | load path => path
  | get _ => none
  | save _ _ path => path
  | saveValue _ _ path => path

def onMap (request : Request) (M : List (String × Config)) :
    List (String × Config) × Except Fault Answer :=
  match request with
  | load _ => (M, .ok (.all M))
  | get name => (M, .ok (.found (M.lookup name)))
  | save name config _ => (assign name config M, .ok (.saved config))
  | saveValue name v _ =>
    match Config.ofJson v with
    | .ok config => (assign name config M, .ok (.saved config))
    | .error fault => (M, .error fault)

def serve (request : Request) (w : Workspace) : Workspace × Except Fault Answer :=
  request.session.run w

end Request

def Stores (disk : Disk) (path : Path) (M : List (String × Config)) : Prop :=
  configsAt disk path = .ok M ∨ disk.holds path = false ∧ M = []

def defaultFile (directory : Path) : Path := directory.join extractorsName

/-- Whether a loader of a directory answers from a map: the default file holds it, and the loader
knows all of it or nothing. -/
structure Serves (directory : Path) (w : Workspace) (M : List (String × Config)) : Prop where
  home : w.loader.directory = directory
  known : w.loader.known = [] ∨ w.loader.known = M
  stores : Stores w.disk (defaultFile directory) M
  place : ∃ l, w.disk.locate (defaultFile directory) = .ok l ∧ w.disk.isDirectory l = false
  made : ∀ e : Disk, w.disk.directories ⊆ e.directories → e.makeDirectories directory = .ok e

lemma Stores.nodup (h : Stores disk path M) : (M.map (·.1)).Nodup := by
  rcases h with h | ⟨-, rfl⟩
  · exact nodup_configsAt h
  · exact List.nodup_nil

lemma run_load_of_stores (h : Stores w.disk (w.loader.target asked) M) :
    (loadExtractors asked).run w = (⟨w.disk, ⟨w.loader.directory, M⟩⟩, .ok M) := by
  rcases h with h | ⟨h, rfl⟩
  · exact run_loadExtractors h
  · exact run_loadExtractors_of_absent h

namespace Serves

variable (h : Serves directory w M)

include h

lemma target (hasked : ∀ p ∈ asked, p = defaultFile directory) :
    w.loader.target asked = defaultFile directory := by
  cases asked with
  | none => exact congrArg defaultFile h.home
  | some p => exact hasked p rfl

lemma loaded : Serves directory ⟨w.disk, ⟨w.loader.directory, M⟩⟩ M :=
  ⟨h.home, .inr rfl, h.stores, h.place, h.made⟩

lemma run_load (asked : Option Path) (hasked : ∀ p ∈ asked, p = defaultFile directory) :
    (loadExtractors asked).run w = (⟨w.disk, ⟨w.loader.directory, M⟩⟩, .ok M) :=
  run_load_of_stores (h.target hasked ▸ h.stores)

lemma run_get (name : String) : ∃ w', Serves directory w' M ∧
    (getExtractor name).run w = (w', .ok (M.lookup name)) := by
  by_cases hknown : w.loader.known = []
  · exact ⟨_, h.loaded, run_getExtractor_of_load hknown (h.run_load none nofun)⟩
  · have hall : w.loader.known = M := h.known.resolve_left hknown
    exact ⟨w, h, hall ▸ run_getExtractor hknown⟩

lemma recalls : Recalls w (defaultFile directory) M := by
  by_cases hknown : w.loader.known = []
  · rcases h.stores with hM | ⟨habsent, rfl⟩
    · exact .loaded hknown hM
    · exact .absent hknown habsent
  · have hall : w.loader.known = M := h.known.resolve_left hknown
    exact hall ▸ .remembered hknown

lemma run_save (asked : Option Path) (hasked : ∀ p ∈ asked, p = defaultFile directory)
    (name : String) (config : Config) : ∃ w', Serves directory w' (assign name config M) ∧
      (saveExtractor name config asked).run w = (w', .ok config) := by
  have htarget := h.target hasked
  obtain ⟨l, hl, hfile⟩ := h.place
  obtain ⟨disk, hwrite⟩ := Disk.exists_write hl hfile (fileOf (assign name config M)).render
  obtain ⟨k, hk, hnew, -, hsame⟩ := Disk.exists_of_write hwrite
  obtain rfl : l = k := Except.ok.inj (hl.symm.trans hk)
  have hnodup := nodup_keys_assign name config M h.stores.nodup
  -- Directories stay as they are, so the path leads where it led, now to the new text.
  refine ⟨⟨disk, ⟨w.loader.directory, assign name config M⟩⟩,
    ⟨h.home, .inr rfl, .inl ?_, ?_, ?_⟩, ?_⟩
  · exact configsAt_of_read (Disk.read_of_write hwrite) hnodup
  · exact ⟨l, hnew, hsame.isDirectory.trans hfile⟩
  · intro e he
    exact h.made e (hsame.directories ▸ he)
  · rw [run_saveExtractor (htarget ▸ h.recalls), htarget, hwrite]

end Serves

lemma Serves.step (hpath : ∀ p ∈ request.path?, p = defaultFile directory)
    (h : Serves directory w M) : Serves directory (request.serve w).1 (request.onMap M).1 ∧
      (request.serve w).2 = (request.onMap M).2 := by
  cases request with
  | load asked =>
    have hrun := h.run_load asked hpath
    simp [Request.serve, Request.session, Request.onMap, hrun, h.loaded]
  | get name =>
    obtain ⟨w', h', hrun⟩ := h.run_get name
    simp [Request.serve, Request.session, Request.onMap, hrun, h']
  | save name config asked =>
    obtain ⟨w', h', hrun⟩ := h.run_save asked hpath name config
    simp [Request.serve, Request.session, Request.onMap, hrun, h']
  | saveValue name v asked =>
    cases hv : Config.ofJson v with
    | error fault =>
      have hrun : (saveValue name v asked).run w = (w, .error fault) := run_saveValue_of_invalid hv
      simp [Request.serve, Request.session, Request.onMap, hrun, hv, h]
    | ok config =>
      obtain ⟨w', h', hrun⟩ := h.run_save asked hpath name config
      simp [Request.serve, Request.session, Request.onMap, run_saveValue hv, hv, hrun, h']

lemma serves_of_create (hsound : disk.Sound) (hcreate : create disk directory = .ok w)
    (hM : Stores w.disk (defaultFile directory) M) : Serves directory w M := by
  obtain ⟨made, hmade, rfl⟩ := exists_of_map hcreate
  obtain ⟨hgrown, henters, hagain⟩ := Disk.makeDirectories_grown hmade
  obtain ⟨l, hl⟩ := henters.locate_join (by decide : extractorsName ≠ Disk.up)
  refine ⟨rfl, .inl rfl, hM, ⟨_, hl, ?_⟩, hagain⟩
  rcases hM with hM | ⟨habsent, -⟩
  · obtain ⟨text, htext, -⟩ := exists_of_bind hM
    obtain ⟨k, hk, hfile⟩ := Disk.exists_of_read htext
    obtain rfl := Except.ok.inj (hl.symm.trans hk)
    exact hgrown.sound hsound _ (by simp [Disk.isFile, hfile])
  · exact Disk.isDirectory_of_not_holds habsent hl

/-- A loader that is used with its default file only behaves as a map of configurations, which the
file holds after the calls and another loader of the directory finds there. A save of a value that
is no configuration changes nothing. -/
theorem outcomes_serve (disk : Disk) (directory : Path) (w : Workspace)
    (M : List (String × Config)) (rs : List Request) (hsound : disk.Sound)
    (hcreate : create disk directory = .ok w) (hM : Stores w.disk (defaultFile directory) M)
    (hrs : ∀ r ∈ rs, ∀ p ∈ r.path?, p = defaultFile directory) :
    let last := (outcomes Request.serve w rs).1
    let map := (outcomes Request.onMap M rs).1
    (outcomes Request.serve w rs).2 = (outcomes Request.onMap M rs).2 ∧
      Stores last.disk (defaultFile directory) map ∧
      (∃ fresh, create last.disk directory = .ok fresh ∧
        ((loadExtractors none).run fresh).2 = .ok map) ∧
      ∀ name v path fault, Config.ofJson v = .error fault →
        (Request.saveValue name v path).serve last = (last, .error fault) := by
  intro last map
  obtain ⟨hlast, hanswers⟩ : Serves directory last map ∧ _ :=
    outcomes_related (fun r hr w M h => h.step (hrs r hr)) (serves_of_create hsound hcreate hM)
  have hfresh : create last.disk directory = .ok ⟨last.disk, ⟨directory, []⟩⟩ := by
    rw [create, hlast.made last.disk (List.Subset.refl _)]
    rfl
  refine ⟨hanswers, hlast.stores, ⟨_, hfresh, ?_⟩, ?_⟩
  · rw [run_load_of_stores hlast.stores]
  · intro name v path fault hv
    simp [Request.serve, Request.session, run_saveValue_of_invalid hv]

theorem outcomes_serve_empty :
    let row : Config := ⟨"tr", [("x", "td")], none, some ["x"], by decide, by decide, by decide⟩
    let w : Workspace := ⟨⟨[["config"]], []⟩, ⟨⟨["config"]⟩, []⟩⟩
    let rs : List Request := [.get "a", .saveValue "a" row.stored none,
      .save "b" row (some (defaultFile ⟨["config"]⟩)), .saveValue "a" .null none, .load none]
    create .empty ⟨["config"]⟩ = .ok w ∧
      (outcomes Request.serve w rs).2 = [.ok (.found none), .ok (.saved row), .ok (.saved row),
        .error .notFields, .ok (.all [("a", row), ("b", row)])] ∧
      configsAt (outcomes Request.serve w rs).1.disk (defaultFile ⟨["config"]⟩) =
        .ok [("a", row), ("b", row)] := by
  intro row w rs
  have hmap : outcomes Request.onMap [] rs = ([("a", row), ("b", row)], [.ok (.found none),
      .ok (.saved row), .ok (.saved row), .error .notFields,
      .ok (.all [("a", row), ("b", row)])]) := by
    simp only [rs, outcomes, Request.onMap, Config.ofJson_stored]
    rfl
  have hpaths : ∀ r ∈ rs, ∀ p ∈ r.path?, p = defaultFile ⟨["config"]⟩ := by
    simp [rs, Request.path?]
  have hsound : Disk.empty.Sound := nofun
  obtain ⟨hanswers, hstores, -, -⟩ :=
    outcomes_serve .empty ⟨["config"]⟩ w [] rs hsound rfl (.inr ⟨rfl, rfl⟩) hpaths
  rw [hmap] at hanswers hstores
  refine ⟨rfl, hanswers, ?_⟩
  rcases hstores with hfile | ⟨-, hnone⟩
  · exact hfile
  · cases hnone

end MarkupQuery.Loader
