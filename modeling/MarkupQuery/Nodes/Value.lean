import MarkupQuery.Fault
import MarkupQuery.Nodes.NodeSet
import MarkupQuery.Number.Floating
import MarkupQuery.Number.Integer

namespace MarkupQuery

open Number Text

inductive Value
  | none
  | text (s : String)
  | int (i : Int)
  | bool (b : Bool)
  | float (f : Floating)
  | node (n : Node)
  | nodes (ns : List (Option Node))
  | set (s : NodeSet)
  | document (d : Nat)
  | predicate (p : Node → Except Fault Bool)

namespace Value

def boolText (b : Bool) : String := if b then "True" else "False"

def scalarText? : Value → Option String
  | int i => some (toString i)
  | bool b => some (boolText b)
  | float f => some f.text
  | _ => .none

def cssText? (lib : Library) : Value → Option String
  | text s => some s
  | node n => if lib.isTag n then .none else some (lib.text n)
  | _ => .none

-- The index that a value stands for: `none` if it is absent, and `default` if it is nothing that
-- can be read as an index.
def index? (lib : Library) (default : Option Int) : Value → Except Fault (Option Int)
  | none => .ok .none
  | int i => .ok (some i)
  | bool b => .ok (some (if b then 1 else 0))
  | text s => .ok ((intOf? s.toList).or default)
  | float (.finite negative digits exponent) =>
    .ok (some (Floating.truncated negative digits exponent))
  | float (.infinite _) => .error .infiniteIndex
  | float .nan => .ok default
  | node n => .ok (if lib.isTag n then default else (intOf? (lib.text n).toList).or default)
  | _ => .ok default

end Value

end MarkupQuery
