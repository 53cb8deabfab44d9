import MarkupQuery.Proofs.Loader.Session

namespace MarkupQuery.Loader

open Extraction Files

inductive Request
  | load (path : Option Path)
  | get (name : String)
  | save (name : String) (config : Config) (path : Option Path)
  | saveValue (name : String) (v : Json) (path : Option Path)

inductive Answer
  | all (known : List (String × Config))
  | found (config : Option Config)
  | saved (config : Config)
  deriving DecidableEq

namespace Request

def session : Request → Session Answer
  | load path => do return .all (← loadExtractors path)
  | get name => do return .found (← getExtractor name)
  | save name config path => do return .saved (← saveExtractor name config path)
  | saveValue name v path => do return .saved (← Loader.saveValue name v path)

def target? : Request → Option (String × Option Path)
  | save name _ path => some (name, path)
  | saveValue name _ path => some (name, path)
  | _ => none

end Request

structure Scene where
  disk : Disk
  loaders : List Loader

inductive Event
  | create (directory : Path)
  | call (i : Nat) (request : Request)

namespace Scene

def call (s : Scene) (i : Nat) (request : Request) : Option (Scene × Except Fault Answer) :=
  s.loaders[i]?.map fun l =>
    let (w, outcome) := request.session.run ⟨s.disk, l⟩
    (⟨w.disk, s.loaders.set i w.loader⟩, outcome)

def step (s : Scene) : Event → Scene
  | .create directory =>
    match create s.disk directory with
    | .ok w => ⟨w.disk, s.loaders ++ [w.loader]⟩
    | .error _ => s
  | .call i request => ((s.call i request).map (·.1)).getD s

def run (s : Scene) (events : List Event) : Scene := events.foldl step s

def Distinct (s : Scene) : Prop := ∀ l ∈ s.loaders, (l.known.map (·.1)).Nodup

end Scene

variable {s s' : Scene} {i : Nat} {l : Loader} {request : Request} {events : List Event}
  {name : String} {path : Option Path} {config : Config} {M : List (String × Config)}
  {outcome : Except Fault Answer}

lemma keeps_session {directory : Path} (request : Request) :
    Session.Keeps (Workspace.Belongs directory) request.session := by
  have hdone {α : Type} (f : α → Answer) (a : α) :
      Session.Keeps (Workspace.Belongs directory) (pure (f a) : Session Answer) :=
    .of_unchanged fun _ => rfl
  cases request with
  | load path => exact .bind keeps_loadExtractors (hdone .all)
  | get name => exact .bind (keeps_getExtractor name) (hdone .found)
  | save name config path => exact .bind (keeps_saveExtractor name config) (hdone .saved)
  | saveValue name v path =>
    refine .bind ?_ (hdone .saved)
    exact .bind (.of_unchanged fun _ => rfl) fun config => keeps_saveExtractor name config

lemma Scene.exists_of_call (h : s.call i request = some (s', outcome)) :
    ∃ l w, s.loaders[i]? = some l ∧ request.session.run ⟨s.disk, l⟩ = (w, outcome) ∧
      s' = ⟨w.disk, s.loaders.set i w.loader⟩ := by
  obtain ⟨l, hl, h⟩ := Option.map_eq_some_iff.mp h
  obtain ⟨rfl, rfl⟩ := Prod.mk.inj h
  exact ⟨l, _, hl, rfl, rfl⟩

lemma Scene.distinct_step (hs : s.Distinct) (event : Event) : (s.step event).Distinct := by
  cases event with
  | create directory =>
    rw [step]
    split
    · next w hw =>
      obtain ⟨disk, -, rfl⟩ := exists_of_map hw
      intro l hl
      rcases List.mem_append.mp hl with hl | hl
      · exact hs l hl
      · obtain rfl := List.mem_singleton.mp hl
        exact List.nodup_nil
    · exact hs
  | call i request =>
    rw [step]
    cases h : s.call i request with
    | none => exact hs
    | some result =>
      obtain ⟨s', outcome⟩ := result
      obtain ⟨l, w, hl, hrun, rfl⟩ := exists_of_call h
      intro m hm
      rcases List.mem_or_eq_of_mem_set hm with hm | rfl
      · exact hs m hm
      · have hbefore : Workspace.Belongs l.directory ⟨s.disk, l⟩ :=
          ⟨rfl, hs l (List.mem_of_getElem? hl)⟩
        exact ((keeps_session request).of_run hbefore hrun).distinct

lemma Scene.distinct_run (hs : s.Distinct) (events : List Event) : (s.run events).Distinct := by
  induction events generalizing s with
  | nil => exact hs
  | cons event events ih => exact ih (distinct_step hs event)

lemma exists_of_run_save {w w' : Workspace} {saved : Config} (hw : w.Distinct)
    (hM : configsAt w.disk (w.loader.target path) = .ok M)
    (h : (saveExtractor name config path).run w = (w', .ok saved)) :
    saved = config ∧
      configsAt w'.disk (w.loader.target path) =
        .ok (assign name config (if w.loader.known.isEmpty then M else w.loader.known)) ∧
      ∃ k, w.disk.locate (w.loader.target path) = .ok k ∧ Disk.SameBut k w.disk w'.disk := by
  obtain ⟨hrecalls, hnodup⟩ : Recalls w (w.loader.target path)
      (if w.loader.known.isEmpty then M else w.loader.known) ∧
      ((if w.loader.known.isEmpty then M else w.loader.known).map (·.1)).Nodup := by
    by_cases hknown : w.loader.known = []
    · rw [if_pos (by simp [hknown])]
      exact ⟨.loaded hknown hM, nodup_configsAt hM⟩
    · rw [if_neg (by simp [hknown])]
      exact ⟨.remembered hknown, hw⟩
  rw [run_saveExtractor hrecalls] at h
  split at h
  · next disk hwrite =>
    obtain ⟨rfl, hsaved⟩ := Prod.mk.inj h
    obtain ⟨k, hk, -, -, hsame⟩ := Disk.exists_of_write hwrite
    have hnodup := nodup_keys_assign name config _ hnodup
    exact ⟨(Except.ok.inj hsaved).symm, configsAt_of_read (Disk.read_of_write hwrite) hnodup,
      k, hk, hsame⟩
  · cases (Prod.mk.inj h).2

lemma exists_save_of_session {w w' : Workspace} (htarget : request.target? = some (name, path))
    (h : request.session.run w = (w', .ok (.saved config))) :
    ∃ given, (saveExtractor name given path).run w = (w', .ok config) := by
  cases request with
  | load | get => cases htarget
  | save name given path =>
    obtain ⟨rfl, rfl⟩ := Prod.mk.inj (Option.some.inj htarget)
    obtain ⟨v, saved, hsave, hdone⟩ := Session.exists_of_run_bind h
    cases hdone
    exact ⟨given, hsave⟩
  | saveValue name value path =>
    obtain ⟨rfl, rfl⟩ := Prod.mk.inj (Option.some.inj htarget)
    obtain ⟨v, saved, hsave, hdone⟩ := Session.exists_of_run_bind h
    cases hdone
    obtain ⟨u, given, hgiven, hsave⟩ := Session.exists_of_run_bind hsave
    obtain rfl : w = u := (Prod.mk.inj hgiven).1
    exact ⟨given, hsave⟩

/-- Whatever loaders of a disk did before, a save to a file that holds configurations leaves there
what the loader knows, or what the file held if it knows nothing, with the new configuration. -/
theorem Scene.save_after_run (disk : Disk) (events : List Event) (i : Nat) (request : Request)
    (l : Loader) (s' : Scene) (name : String) (path : Option Path) (config : Config)
    (M : List (String × Config))
    (hl : (run ⟨disk, []⟩ events).loaders[i]? = some l)
    (htarget : request.target? = some (name, path))
    (hcall : (run ⟨disk, []⟩ events).call i request = some (s', .ok (.saved config)))
    (hM : configsAt (run ⟨disk, []⟩ events).disk (l.target path) = .ok M) :
    configsAt s'.disk (l.target path) =
        .ok (assign name config (if l.known.isEmpty then M else l.known)) ∧
      ∃ k, (run ⟨disk, []⟩ events).disk.locate (l.target path) = .ok k ∧
        Disk.SameBut k (run ⟨disk, []⟩ events).disk s'.disk := by
  have hnone : Distinct ⟨disk, []⟩ := List.forall_mem_nil _
  have hdistinct : (run ⟨disk, []⟩ events).Distinct := distinct_run hnone events
  obtain ⟨l', w, hl', hrun, rfl⟩ := exists_of_call hcall
  obtain rfl : l = l' := Option.some.inj (hl.symm.trans hl')
  have hknown : Workspace.Distinct ⟨(run ⟨disk, []⟩ events).disk, l⟩ :=
    hdistinct l (List.mem_of_getElem? hl)
  obtain ⟨given, hsave⟩ := exists_save_of_session htarget hrun
  obtain ⟨rfl, hfile, hsame⟩ := exists_of_run_save hknown hM hsave
  exact ⟨hfile, hsame⟩

theorem Scene.save_after_run_same_file :
    let row : Config := ⟨"tr", [], none, none, by decide, nofun, List.nodup_nil⟩
    let file : Path := ⟨["b.json"]⟩
    let s : Scene := run ⟨.empty, []⟩ [.create ⟨[]⟩, .call 0 (.save "b" row (some file))]
    configsAt s.disk file = .ok [("b", row)] ∧
    ∃ s', s.call 0 (.save "x" row (some file)) = some (s', .ok (.saved row)) ∧
      configsAt s'.disk file = .ok [("b", row), ("x", row)] := by
  intro row file s
  have hM : configsAt s.disk file = .ok [("b", row)] := configsAt_of_read rfl (by decide)
  obtain ⟨s', hcall⟩ : ∃ s', s.call 0 (.save "x" row (some file)) =
      some (s', .ok (.saved row)) := ⟨_, rfl⟩
  exact ⟨hM, s', hcall, (save_after_run .empty _ 0 _ ⟨⟨[]⟩, [("b", row)]⟩ s' "x" (some file) row
    [("b", row)] rfl rfl hcall hM).1⟩

-- A loader that knows configurations puts them into any other file that it saves to, in the place
-- of those that the file held.
theorem Scene.not_save_preserves : ¬ ∀ (disk : Disk) (events : List Event) (i : Nat)
    (request : Request) (l : Loader) (s' : Scene) (name : String) (path : Option Path)
    (config : Config) (M : List (String × Config)),
    (run ⟨disk, []⟩ events).loaders[i]? = some l → request.target? = some (name, path) →
    (run ⟨disk, []⟩ events).call i request = some (s', .ok (.saved config)) →
    configsAt (run ⟨disk, []⟩ events).disk (l.target path) = .ok M →
    configsAt s'.disk (l.target path) = .ok (assign name config M) := by
  intro h
  -- The second loader comes to know `a` from the default file before it saves to the other one.
  let row : Config := ⟨"tr", [], none, none, by decide, nofun, List.nodup_nil⟩
  let file : Path := ⟨["b.json"]⟩
  let events : List Event := [.create ⟨[]⟩, .call 0 (.save "b" row (some file)), .create ⟨[]⟩,
    .call 1 (.save "a" row none)]
  let s : Scene := run ⟨.empty, []⟩ events
  have hM : configsAt s.disk file = .ok [("b", row)] := configsAt_of_read rfl (by decide)
  obtain ⟨s', hcall, hread⟩ : ∃ s', s.call 1 (.save "x" row (some file)) =
      some (s', .ok (.saved row)) ∧
      s'.disk.read file = .ok (fileOf [("a", row), ("x", row)]).render := ⟨_, rfl, rfl⟩
  have hfile := h .empty events 1 _ ⟨⟨[]⟩, [("a", row)]⟩ s' "x" (some file) row [("b", row)] rfl rfl
    hcall hM
  have hsaved : configsAt s'.disk file = .ok [("a", row), ("x", row)] :=
    configsAt_of_read hread (by decide)
  have hnames := congrArg (List.map (·.1)) (Except.ok.inj (hsaved.symm.trans hfile))
  exact absurd hnames (by decide)

end MarkupQuery.Loader
