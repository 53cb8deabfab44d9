import MarkupQuery.Nodes.Query

namespace MarkupQuery

def keep {α : Type} (test : α → Except Fault Bool) : List α → Except Fault (List α)
  | [] => .ok []
  | a :: as =>
    match test a with
    | .error fault => .error fault
    | .ok true => (keep test as).map (a :: ·)
    | .ok false => keep test as

def firstKept? {α : Type} (test : α → Except Fault Bool) : List α → Except Fault (Option α)
  | [] => .ok none
  | a :: as =>
    match test a with
    | .error fault => .error fault
    | .ok true => .ok (some a)
    | .ok false => firstKept? test as

def collect {α β : Type} (step : α → Except Fault (Option β)) : List α → Except Fault (List β)
  | [] => .ok []
  | a :: as =>
    match step a with
    | .error fault => .error fault
    | .ok found => (collect step as).map (found.toList ++ ·)

namespace Library

variable (lib : Library)

def parentElement (n : Node) : List Node := n.parent?.toList.filter lib.isElement

def ancestorElements (n : Node) : List Node := n.ancestors.filter lib.isElement

def siblingElements (n : Node) : List Node :=
  match n.parent? with
  | some p => (lib.childElements p).filter (· ≠ n)
  | none => []

def inclusiveAncestors (n : Node) : List Node :=
  if lib.isElement n then n :: lib.ancestorElements n else []

end Library

namespace NodeSet

variable (lib : Library)

def derive (s : NodeSet) (step : Node → List Node) (v : Value) : Except Fault NodeSet :=
  (keep (v.admits lib s.home) (firsts (s.nodes.flatMap step))).map fun kept =>
    .ofList s.home (sorted s.home kept)

def deriveReversed (s : NodeSet) (step : Node → List Node) (v : Value) : Except Fault NodeSet :=
  (keep (v.admits lib s.home) (firsts (s.nodes.flatMap step))).map fun kept =>
    .ofList s.home (sorted s.home kept).reverse

def parent (s : NodeSet) (v : Value) : Except Fault NodeSet := s.derive lib lib.parentElement v

def parents (s : NodeSet) (v : Value) : Except Fault NodeSet :=
  s.deriveReversed lib lib.ancestorElements v

def next (s : NodeSet) (v : Value) : Except Fault NodeSet :=
  s.derive lib (fun n => (lib.followingElements n).take 1) v

def nextAll (s : NodeSet) (v : Value) : Except Fault NodeSet :=
  s.derive lib lib.followingElements v

def prev (s : NodeSet) (v : Value) : Except Fault NodeSet :=
  s.derive lib (fun n => (lib.precedingElements n).take 1) v

def prevAll (s : NodeSet) (v : Value) : Except Fault NodeSet :=
  s.deriveReversed lib lib.precedingElements v

def siblings (s : NodeSet) (v : Value) : Except Fault NodeSet :=
  s.derive lib lib.siblingElements v

def children (s : NodeSet) (v : Value) : Except Fault NodeSet :=
  s.derive lib lib.childElements v

def contents (s : NodeSet) : NodeSet :=
  .ofList s.home (sorted s.home (s.nodes.flatMap lib.childNodes))

def closest (s : NodeSet) (v : Value) : Except Fault NodeSet :=
  match v with
  | .none => .ok (.empty s.home)
  | v =>
    (collect (fun n => firstKept? (v.admits lib s.home) (lib.inclusiveAncestors n)) s.nodes).map
      fun found => .ofList s.home (sorted s.home found)

def find (s : NodeSet) (v : Value) : Except Fault NodeSet := v.query lib s.home (.set s)

def filter (s : NodeSet) (v : Value) : Except Fault NodeSet :=
  match v with
  | .none => .ok (.empty s.home)
  | v => (keep (v.admits lib s.home) s.nodes).map (.ofList s.home)

def exclude (s : NodeSet) (v : Value) : Except Fault NodeSet :=
  match v with
  | .none => .ok (.ofList s.home s.nodes)
  | v => (keep (fun n => (v.admits lib s.home n).map (!·)) s.nodes).map (.ofList s.home)

def has (s : NodeSet) (v : Value) : Except Fault NodeSet :=
  match v with
  | .none => .ok (.empty s.home)
  | v =>
    match v.cssText? lib with
    | some css =>
      (keep (fun n => if lib.isTag n then (lib.select n css).map (!·.isEmpty) else .ok false)
        s.nodes).map (.ofList s.home)
    | none =>
      (v.nodeSet lib s.home).map fun t =>
        .ofList s.home (s.nodes.filter fun n => t.nodes.any fun m => n.isAncestorOf m)

def first (s : NodeSet) : NodeSet := .ofList s.home (s.nodes.take 1)

def last (s : NodeSet) : NodeSet := .ofList s.home s.nodes.getLast?.toList

def place? (size : Nat) (i : Int) : Option Nat :=
  let i := if i < 0 then i + size else i
  if 0 ≤ i ∧ i < size then some i.toNat else none

def eq (s : NodeSet) (v : Value) : Except Fault NodeSet :=
  (v.index? lib none).map fun i =>
    .ofList s.home ((i.bind (place? s.size)).bind (s.nodes[·]?)).toList

def bound (size : Nat) (i : Int) : Nat :=
  if i < 0 then (i + size).toNat else Nat.min i.toNat size

def between {α : Type} (start stop : Option Int) (as : List α) : List α :=
  let a := (start.map (bound as.length)).getD 0
  let b := (stop.map (bound as.length)).getD as.length
  (as.take b).drop a

def slice (s : NodeSet) (start stop : Value) : Except Fault NodeSet := do
  let a ← start.index? lib (some 0)
  let b ← stop.index? lib (some 0)
  return .ofList s.home (between a b s.nodes)

def add (s : NodeSet) (v context : Value) : Except Fault NodeSet :=
  match v with
  | .none => .ok (.ofList s.home s.nodes)
  | v => (v.query lib s.home context).map fun t =>
    .ofList s.home (sorted s.home (s.nodes ++ t.nodes))

def text (s : NodeSet) : String := String.join (s.nodes.map lib.text)

def shownLimit : Nat := 5

def shownName (n : Node) : String :=
  match lib.name? n with
  | some name => name
  | none => "#text"

def shown (s : NodeSet) : String :=
  let names := ", ".intercalate ((s.nodes.take shownLimit).map (shownName lib))
  "NodeSet([" ++ names ++ (if shownLimit < s.size then ", ..." else "") ++ "])"

def item (s : NodeSet) (i : Int) : Except Fault Node :=
  match (place? s.size i).bind (s.nodes[·]?) with
  | some n => .ok n
  | none => .error .outOfRange

end NodeSet

end MarkupQuery
