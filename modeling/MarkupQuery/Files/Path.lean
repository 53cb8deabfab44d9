import MarkupQuery.Text.Blank

namespace MarkupQuery.Files

open Text

structure Path where
  parts : List String
  deriving DecidableEq, Repr

namespace Path

def ofText (s : String) : Path :=
  ⟨((pieces (· == '/') s.toList).map String.ofList).filter fun part => part != "" && part != "."⟩

def toText (p : Path) : String := if p.parts.isEmpty then "." else "/".intercalate p.parts

def join (p : Path) (name : String) : Path := ⟨p.parts ++ [name]⟩

def parent (p : Path) : Path := ⟨p.parts.dropLast⟩

end Path

end MarkupQuery.Files
