import MarkupQuery.Extraction.Config
import MarkupQuery.Files.Disk
import MarkupQuery.Trace

/-! Work with files by a loader, which remembers the extraction configurations that it loaded or
saved last. What the work changes stays changed where it ends in a fault. -/

namespace MarkupQuery

open Extraction Files

structure Loader where
  directory : Path
  known : List (String × Config)

structure Workspace where
  disk : Disk
  loader : Loader

def Session (α : Type) : Type := Workspace → Workspace × Traced Empty α

namespace Session

variable {α γ : Type}

def pure (a : α) : Session α := fun w => (w, .ok a)

def bind (m : Session α) (f : α → Session γ) : Session γ := fun w =>
  let (w, t) := m w
  match t.outcome with
  | .error fault => (w, ⟨t.events, .error fault⟩)
  | .ok a =>
    let (w, u) := f a w
    (w, ⟨t.events ++ u.events, u.outcome⟩)

instance : Monad Session where
  pure := pure
  bind := bind

def traced (t : Traced Empty α) : Session α := fun w => (w, t)

def ofExcept (r : Except Fault α) : Session α := traced (.ofExcept r)

def workspace : Session Workspace := fun w => (w, .ok w)

def remember (known : List (String × Config)) : Session Unit := fun w =>
  ({ w with loader := { w.loader with known := known } }, .ok ())

def setDisk (disk : Disk) : Session Unit := fun w => ({ w with disk := disk }, .ok ())

end Session

end MarkupQuery
