import Mathlib.Data.List.Basic
import Mathlib.Tactic.Lemma
import MarkupQuery.Files.Disk

namespace MarkupQuery.Files

namespace Disk

variable {d d' : Disk} {l k : Location} {p : Path} {ps qs : List String} {name text : String}

def Sound (d : Disk) : Prop := ∀ l, d.isFile l → d.isDirectory l = false

def Enters (d : Disk) (p : Path) : Prop := ∃ l, d.locate p = .ok l ∧ d.isDirectory l

-- Whether a disk has the files of another, its directories, and perhaps more directories where
-- there are no files.
structure Grown (d d' : Disk) : Prop where
  directories : d.directories ⊆ d'.directories
  files : d'.files = d.files
  sound : d.Sound → d'.Sound

structure SameBut (l : Location) (d d' : Disk) : Prop where
  directories : d'.directories = d.directories
  files : ∀ k ≠ l, d'.file? k = d.file? k

lemma Grown.refl : Grown d d := ⟨List.Subset.refl _, rfl, id⟩

lemma Grown.trans {d'' : Disk} (h : Grown d d') (h' : Grown d' d'') : Grown d d'' :=
  ⟨List.Subset.trans h.directories h'.directories, h'.files.trans h.files, h'.sound ∘ h.sound⟩

lemma isDirectory_mono (h : d.directories ⊆ d'.directories) (hl : d.isDirectory l) :
    d'.isDirectory l := by
  simp only [isDirectory, Bool.or_eq_true, List.contains_iff_mem] at hl ⊢
  exact hl.imp_right fun hl => h hl

lemma walk_append : d.walk l (ps ++ qs) = (d.walk l ps).bind fun k => d.walk k qs := by
  induction ps generalizing l with
  | nil => rfl
  | cons part ps ih =>
    rw [List.cons_append, walk, walk]
    split
    · exact ih
    · split <;> rfl

lemma walk_mono (h : d.directories ⊆ d'.directories) (hl : d.walk l ps = .ok k) :
    d'.walk l ps = .ok k := by
  induction ps generalizing l with
  | nil => exact hl
  | cons part ps ih =>
    rw [walk] at hl ⊢
    split at hl
    · next hd =>
      rw [if_pos (isDirectory_mono h hd)]
      exact ih hl
    · split at hl <;> cases hl

lemma Enters.mono (h : d.directories ⊆ d'.directories) (hp : d.Enters p) : d'.Enters p := by
  obtain ⟨l, hl, hd⟩ := hp
  exact ⟨l, walk_mono h hl, isDirectory_mono h hd⟩

lemma locate_join (hl : d.locate p = .ok l) (hd : d.isDirectory l) (name : String) :
    d.locate (p.join name) = .ok (enter l name) := by
  rw [locate] at hl ⊢
  rw [Path.join, walk_append, hl, Except.bind, walk, if_pos hd, walk]

lemma Enters.locate_join (h : d.Enters p) (hname : name ≠ up) :
    ∃ l, d.locate (p.join name) = .ok (l ++ [name]) := by
  obtain ⟨l, hl, hd⟩ := h
  refine ⟨l, ?_⟩
  rw [Disk.locate_join hl hd, enter]
  simp [hname]

lemma Enters.exists_locate (h : d.Enters p.parent) : ∃ l, d.locate p = .ok l := by
  obtain ⟨parts⟩ := p
  rcases List.eq_nil_or_concat' parts with rfl | ⟨parts, part, rfl⟩
  · exact ⟨[], rfl⟩
  · obtain ⟨l, hl, hd⟩ := h
    rw [Path.parent, List.dropLast_concat] at hl
    exact ⟨enter l part, Disk.locate_join hl hd part⟩

lemma isDirectory_of_not_holds (h : d.holds p = false) (hl : d.locate p = .ok l) :
    d.isDirectory l = false := by
  simp only [holds, hl, occupied, Bool.or_eq_false_iff] at h
  exact h.2

lemma makeLast_grown (h : d.makeLast p = .ok d') : Grown d d' ∧ d'.Enters p := by
  rw [makeLast] at h
  split at h
  · cases h
  next l hl =>
  split at h
  · next hd =>
    obtain rfl := Except.ok.inj h
    exact ⟨.refl, l, hl, hd⟩
  split at h
  · cases h
  next hd hf =>
  obtain rfl := Except.ok.inj h
  have hsub : d.directories ⊆ d.directories ++ [l] := List.subset_append_left _ _
  refine ⟨⟨hsub, rfl, fun hsound k hk => ?_⟩, l, walk_mono hsub hl, by simp [isDirectory]⟩
  have hkd : d.isDirectory k = false := hsound k hk
  have hkl : k ≠ l := fun he => hf (he ▸ hk)
  simpa [isDirectory, hkl] using hkd

lemma makeLast_of_enters (h : d.Enters p) : d.makeLast p = .ok d := by
  obtain ⟨l, hl, hd⟩ := h
  simp [makeLast, hl, hd]

lemma exists_of_makeEach_cons {paths : List Path} (h : d.makeEach (p :: paths) = .ok d') :
    ∃ made, d.makeLast p = .ok made ∧ made.makeEach paths = .ok d' := by
  cases paths with
  | nil => exact ⟨d', h, rfl⟩
  | cons q paths =>
    rw [makeEach] at h
    · split at h
      · cases h
      · cases h
      · next made hmade => exact ⟨made, hmade, h⟩
    · nofun

lemma makeEach_grown {paths : List Path} (h : d.makeEach paths = .ok d') :
    Grown d d' ∧ ∀ p ∈ paths, d'.Enters p := by
  induction paths generalizing d with
  | nil =>
    obtain rfl := Except.ok.inj h
    exact ⟨.refl, nofun⟩
  | cons p paths ih =>
    obtain ⟨made, hmade, hrest⟩ := exists_of_makeEach_cons h
    obtain ⟨hp, henters⟩ := makeLast_grown hmade
    obtain ⟨hpaths, hall⟩ := ih hrest
    refine ⟨hp.trans hpaths, List.forall_mem_cons.mpr ⟨?_, hall⟩⟩
    exact henters.mono hpaths.directories

lemma makeEach_of_enters {paths : List Path} (h : ∀ p ∈ paths, d.Enters p) :
    d.makeEach paths = .ok d := by
  induction paths with
  | nil => rfl
  | cons p paths ih =>
    obtain ⟨hp, hpaths⟩ := List.forall_mem_cons.mp h
    cases paths with
    | nil => exact makeLast_of_enters hp
    | cons q paths =>
      rw [makeEach, makeLast_of_enters hp]
      · exact ih hpaths
      · nofun

lemma mem_stages (done : List String) (h : ps ≠ []) : ⟨done ++ ps⟩ ∈ stages done ps := by
  induction ps generalizing done with
  | nil => exact absurd rfl h
  | cons part ps ih =>
    cases ps with
    | nil => exact List.mem_cons_self
    | cons q ps =>
      have hq := ih (done ++ [part]) nofun
      rw [List.append_assoc] at hq
      exact List.mem_cons_of_mem _ hq

lemma makeDirectories_grown (h : d.makeDirectories p = .ok d') :
    Grown d d' ∧ d'.Enters p ∧
      ∀ e : Disk, d'.directories ⊆ e.directories → e.makeDirectories p = .ok e := by
  obtain ⟨hgrown, hall⟩ := makeEach_grown h
  refine ⟨hgrown, ?_, fun e hsub => makeEach_of_enters fun q hq => (hall q hq).mono hsub⟩
  obtain ⟨parts⟩ := p
  cases parts with
  | nil => exact ⟨[], rfl, rfl⟩
  | cons part parts => exact hall _ (mem_stages [] nofun)

lemma lookup_cons_eq (k l : Location) (text : String) (files : List (Location × String)) :
    ((l, text) :: files).lookup k = if k = l then some text else files.lookup k := by
  split
  · next h => rw [h, List.lookup_cons_self]
  · next h => rw [List.lookup_cons, beq_eq_false_iff_ne.mpr h]

lemma lookup_put (files : List (Location × String)) :
    (put l text files).lookup k = if k = l then some text else files.lookup k := by
  induction files with
  | nil => rw [put, lookup_cons_eq]
  | cons f files ih =>
    obtain ⟨m, old⟩ := f
    rw [put]
    split
    · next hm =>
      subst hm
      simp only [lookup_cons_eq]
      split <;> rfl
    · next hm =>
      simp only [lookup_cons_eq, ih]
      split
      · next hk => rw [if_neg fun hl => hm (hk.symm.trans hl)]
      · rfl

lemma exists_of_write (h : d.write p text = .ok d') :
    ∃ l, d.locate p = .ok l ∧ d'.locate p = .ok l ∧ d'.file? l = some text ∧ SameBut l d d' := by
  rw [write] at h
  split at h
  · cases h
  next l hl =>
  split at h
  · cases h
  obtain rfl := Except.ok.inj h
  refine ⟨l, hl, walk_mono (d := d) (List.Subset.refl _) hl, ?_, rfl, fun k hk => ?_⟩
  · simp [file?, lookup_put]
  · simp [file?, lookup_put, hk]

lemma SameBut.isDirectory (h : SameBut l d d') : d'.isDirectory k = d.isDirectory k := by
  rw [Disk.isDirectory, Disk.isDirectory, h.directories]

lemma exists_write (hl : d.locate p = .ok l) (hd : d.isDirectory l = false) (text : String) :
    ∃ d', d.write p text = .ok d' := by
  simp [write, hl, hd]

lemma exists_of_read (h : d.read p = .ok text) :
    ∃ l, d.locate p = .ok l ∧ d.file? l = some text := by
  rw [read] at h
  split at h
  · cases h
  next l hl =>
  split at h
  · next hf => exact ⟨l, hl, Except.ok.inj h ▸ hf⟩
  · cases h

lemma read_of_file? (hl : d.locate p = .ok l) (hf : d.file? l = some text) :
    d.read p = .ok text := by
  simp [read, hl, hf]

lemma Grown.read (h : Grown d d') (hread : d.read p = .ok text) : d'.read p = .ok text := by
  obtain ⟨l, hl, hf⟩ := exists_of_read hread
  refine read_of_file? (walk_mono h.directories hl) ?_
  rwa [file?, h.files]

lemma holds_of_read (h : d.read p = .ok text) : d.holds p := by
  obtain ⟨l, hl, hf⟩ := exists_of_read h
  simp [holds, hl, occupied, isFile, hf]

lemma read_of_write (h : d.write p text = .ok d') : d'.read p = .ok text := by
  obtain ⟨l, -, hl, hf, -⟩ := exists_of_write h
  exact read_of_file? hl hf

end Disk

end MarkupQuery.Files
