import MarkupQuery.Nodes.Value

namespace MarkupQuery

open Markup

inductive Finding
  | absent
  | truth (b : Bool)
  | text (s : String)
  | words (ws : List String)
  | count (n : Nat)
  deriving DecidableEq, Repr

def Finding.isFound : Finding → Bool
  | absent => false
  | truth b => b
  | text s => !s.isEmpty
  | words ws => !ws.isEmpty
  | count n => n != 0

def Finding.ofAttribute : AttributeValue → Finding
  | .text s => text s
  | .words ws => words ws
  | .qualified _ s => text s

inductive Probe
  | nameIs (name : String)
  | textEnds (ending : String)
  | text
  | attributeOf (name : String)
  | childCount
  | failing
  deriving DecidableEq, Repr

namespace Probe

variable (lib : Library)

def read (p : Probe) (n : Node) : Except Fault Finding :=
  match p with
  | nameIs name => .ok (.truth (lib.name? n == some name))
  | textEnds ending => .ok (.truth (ending.toList.isSuffixOf (lib.text n).toList))
  | text => .ok (.text (lib.text n))
  | attributeOf name =>
    match (lib.tree? n).bind (·.attribute? name) with
    | some v => .ok (.ofAttribute v)
    | none => .ok .absent
  | childCount => .ok (.count (lib.childCount n))
  | failing => .error .outOfRange

def value (p : Probe) : Value := .predicate fun n => (p.read lib n).map Finding.isFound

def readAll (p : Probe) : List Node → Except Fault (List Finding)
  | [] => .ok []
  | n :: ns =>
    match p.read lib n with
    | .error fault => .error fault
    | .ok f => (readAll p ns).map fun fs => if f = .absent then fs else f :: fs

end Probe

end MarkupQuery
