import MarkupQuery.Css.Matching
import MarkupQuery.Css.Reader
import MarkupQuery.Nodes.Value

namespace MarkupQuery

open Text

namespace Library

variable (lib : Library)

def badCss (css : String) : Css.Refusal → Fault
  | .malformed => .malformed .css (some css) none
  | .beyondCodes => .codeLimit
  | .unsupported => .unsupported

def selectorOf (css : String) : Except Fault Css.Selector :=
  (Css.Selector.ofText css).mapError (badCss css)

def anchored (css : String) : String :=
  let css := trimmed css
  match css.toList with
  | '>' :: _ | '+' :: _ | '~' :: _ => ":scope " ++ css
  | _ => css

def select (n : Node) (css : String) : Except Fault (List Node) :=
  (selectorOf (anchored css)).map fun s => Css.select lib s n

def accepts (n : Node) (css : String) : Except Fault Bool :=
  (selectorOf css).map fun s => Css.matchesNode lib s n

def selectEach (css : String) : List Node → Except Fault (List Node)
  | [] => .ok []
  | n :: ns =>
    match lib.select n css with
    | .error fault => .error fault
    | .ok found => (selectEach css ns).map (found ++ ·)

end Library

namespace Value

variable (lib : Library) (home : Nat)

def unselectable (shown : String) : Fault := .malformed (.unselectable shown) (some shown) .none

def nodeSet : Value → Except Fault NodeSet
  | none => .ok (.empty home)
  | set s => .ok (.ofList home s.nodes)
  | document d => .ok (.ofList home [.root d])
  | node n => .ok (.ofList home [n])
  | text css => (lib.select (.root home) css).map (.ofList home)
  | int i => .error (unselectable (toString i))
  | bool b => .error (unselectable (boolText b))
  | float f => .error (unselectable f.text)
  | nodes ns => .ok (.ofList home (ns.filterMap id))
  | predicate _ => .error .notNodes

def scope (v : Value) : Except Fault (List Node) :=
  (nodeSet lib home v).map fun s => s.nodes.filter lib.isTag

def query (v context : Value) : Except Fault NodeSet :=
  match v with
  | text css =>
    match context with
    | none => (lib.select (.root home) css).map (.ofList home)
    | context =>
      match scope lib home context with
      | .error fault => .error fault
      | .ok ns => (lib.selectEach css ns).map fun found => .ofList home (NodeSet.sorted home found)
  | v => nodeSet lib home v

def admits (v : Value) (n : Node) : Except Fault Bool :=
  match v with
  | none => .ok true
  | predicate p => p n
  | v =>
    match v.cssText? lib with
    | some css => if lib.isTag n then lib.accepts n css else .ok false
    | .none => (nodeSet lib home v).map fun s => s.nodes.contains n

end Value

end MarkupQuery
