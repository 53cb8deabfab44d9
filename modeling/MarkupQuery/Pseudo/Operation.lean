import MarkupQuery.Nodes.Traversal

namespace MarkupQuery.Pseudo

inductive Operation
  | parent
  | parents
  | closest
  | next
  | nextAll
  | prev
  | prevAll
  | siblings
  | children
  | contents
  | find
  | filter
  | exclude
  | has
  | first
  | last
  | eq
  | slice
  | add
  deriving DecidableEq, Repr

namespace Operation

variable (lib : Library)

def select? : Operation → Option (NodeSet → Value → Except Fault NodeSet)
  | parent => some (NodeSet.parent lib)
  | parents => some (NodeSet.parents lib)
  | closest => some (NodeSet.closest lib)
  | next => some (NodeSet.next lib)
  | nextAll => some (NodeSet.nextAll lib)
  | prev => some (NodeSet.prev lib)
  | prevAll => some (NodeSet.prevAll lib)
  | siblings => some (NodeSet.siblings lib)
  | children => some (NodeSet.children lib)
  | filter => some (NodeSet.filter lib)
  | exclude => some (NodeSet.exclude lib)
  | has => some (NodeSet.has lib)
  | _ => none

def apply (op : Operation) (s : NodeSet) (arguments : List Value) : Except Fault NodeSet :=
  match op.select? lib with
  | some f =>
    match arguments with
    | [] => f s .none
    | [v] => f s v
    | _ => .error .arity
  | none =>
    match op, arguments with
    | contents, [] => .ok (s.contents lib)
    | first, [] => .ok s.first
    | last, [] => .ok s.last
    | find, [v] => s.find lib v
    | eq, [v] => s.eq lib v
    | slice, [] => s.slice lib .none .none
    | slice, [start] => s.slice lib start .none
    | slice, [start, stop] => s.slice lib start stop
    | add, [v] => s.add lib v .none
    | add, [v, context] => s.add lib v context
    | _, _ => .error .arity

end Operation

end MarkupQuery.Pseudo
