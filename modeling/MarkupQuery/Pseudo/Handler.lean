import MarkupQuery.Pseudo.Registry

namespace MarkupQuery.Pseudo

structure Observation where
  name : String
  arguments : List Value
  size : Nat

namespace Handler

variable {β : Type}

def applying (op : Operation) (values : Library → Except Fault (List Value)) : Handler β :=
  fun lib s _ => .ofExcept do
    let vs ← values lib
    let t ← op.apply lib s vs
    return .set t

def isGiven : Value → Bool
  | .none => false
  | _ => true

def forwarding (op : Operation) : Handler β := fun lib s arguments =>
  .ofExcept ((op.apply lib s (arguments.filter isGiven)).map .set)

def constant (value : Library → Except Fault Value) : Handler β := fun lib _ _ =>
  .ofExcept (value lib)

def parents : Handler β := fun _ s _ => .ok (.nodes (s.nodes.map Node.parent?))

def members : Handler β := fun _ s _ => .ok (.nodes (s.nodes.map some))

def item : Handler β := fun _ s arguments =>
  match arguments with
  | [] => .ofExcept ((s.item 0).map .node)
  | .none :: _ => .ofExcept ((s.item 0).map .node)
  | .int i :: _ => .ofExcept ((s.item i).map .node)
  | .bool b :: _ => .ofExcept ((s.item (if b then 1 else 0)).map .node)
  | _ :: _ => .fail .notIndex

def observing (name : String) : Handler Observation := fun _ s arguments => do
  Traced.observe ⟨name, arguments, s.size⟩
  return .set s

end Handler

end MarkupQuery.Pseudo
