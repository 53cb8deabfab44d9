import MarkupQuery.Fault
import MarkupQuery.Files.Path
import MarkupQuery.Json.Value
import MarkupQuery.Text.Order

/-! A tree of files and directories. A location is the list of names from the starting directory;
the names of directories above it are double dots. -/

namespace MarkupQuery.Files

open Text

abbrev Location := List String

structure Disk where
  directories : List Location
  files : List (Location × String)

namespace Disk

def empty : Disk := ⟨[], []⟩

def up : String := ".."

def isDirectory (d : Disk) (l : Location) : Bool := l.all (· == up) || d.directories.contains l

def file? (d : Disk) (l : Location) : Option String := d.files.lookup l

def isFile (d : Disk) (l : Location) : Bool := (d.file? l).isSome

def occupied (d : Disk) (l : Location) : Bool := d.isFile l || d.isDirectory l

def enter (l : Location) (part : String) : Location :=
  if part = up && !l.all (· == up) then l.dropLast else l ++ [part]

def walk (d : Disk) (l : Location) : List String → Except Fault Location
  | [] => .ok l
  | part :: parts =>
    if d.isDirectory l then walk d (enter l part) parts
    else if d.isFile l then .error .notDirectory
    else .error .missingFile

def locate (d : Disk) (p : Path) : Except Fault Location := d.walk [] p.parts

def holds (d : Disk) (p : Path) : Bool :=
  match d.locate p with
  | .ok l => d.occupied l
  | .error _ => false

def read (d : Disk) (p : Path) : Except Fault String :=
  match d.locate p with
  | .error fault => .error fault
  | .ok l =>
    match d.file? l with
    | some text => .ok text
    | none => .error (if d.isDirectory l then .isDirectory else .missingFile)

def put (l : Location) (text : String) : List (Location × String) → List (Location × String)
  | [] => [(l, text)]
  | (k, old) :: files => if k = l then (k, text) :: files else (k, old) :: put l text files

def write (d : Disk) (p : Path) (text : String) : Except Fault Disk :=
  match d.locate p with
  | .error fault => .error fault
  | .ok l =>
    if d.isDirectory l then .error .isDirectory else .ok { d with files := put l text d.files }

def delete (d : Disk) (p : Path) : Except Fault Disk :=
  match d.locate p with
  | .error fault => .error fault
  | .ok l =>
    if d.isFile l then .ok { d with files := d.files.filter fun f => f.1 != l }
    else .error (if d.isDirectory l then .isDirectory else .missingFile)

def makeLast (d : Disk) (p : Path) : Except Fault Disk :=
  match d.locate p with
  | .error fault => .error fault
  | .ok l =>
    if d.isDirectory l then .ok d
    else if d.isFile l then .error .existingFile
    else .ok { d with directories := d.directories ++ [l] }

def stages (done : List String) : List String → List Path
  | [] => []
  | part :: parts => ⟨done ++ [part]⟩ :: stages (done ++ [part]) parts

def makeEach (d : Disk) : List Path → Except Fault Disk
  | [] => .ok d
  | [p] => d.makeLast p
  | p :: ps =>
    match d.makeLast p with
    | .error .existingFile => .error .notDirectory
    | .error fault => .error fault
    | .ok d => makeEach d ps

def makeDirectories (d : Disk) (p : Path) : Except Fault Disk := d.makeEach (stages [] p.parts)

def list (d : Disk) : List String :=
  sortTexts ((d.files.map (·.1)).filter (fun l => l.head? != some up) |>.map "/".intercalate)

end Disk

end MarkupQuery.Files
