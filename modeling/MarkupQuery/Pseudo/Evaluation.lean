import MarkupQuery.Pseudo.Registry
import MarkupQuery.Selector.Segment

/-! Evaluation of selectors. Segments act from left to right: plain CSS looks below the nodes
reached so far, a pseudo-class call hands them to its handler. -/

namespace MarkupQuery.Pseudo

open Selector Text

inductive Context
  | unset
  | given (v : Value)
  | reached (s : NodeSet)

namespace Context

def ofValue : Value → Context
  | .none => unset
  | v => given v

def value : Context → Value
  | unset => .none
  | given v => v
  | reached s => .set s

def isUnset : Context → Bool
  | unset => true
  | _ => false

def nodeSet (lib : Library) (home : Nat) : Context → Except Fault NodeSet
  | unset => .error (.missingContext none)
  | given v => v.nodeSet lib home
  | reached s => .ok s

end Context

def argumentValue : Argument → Value
  | .number n => .int n
  | .word s => .text s

def argumentValues : List Argument → List Value
  | [] => [.none]
  | arguments => arguments.map argumentValue

variable {β : Type} (lib : Library) (home : Nat) (registry : Registry β) (selector : String)

def resultSet : Value → Except Fault NodeSet
  | .set s => .ok s
  | v => v.nodeSet lib home

def applyCall (place : Place) (call : Call) (context : Context) : Traced β NodeSet :=
  if context.isUnset then .fail (.missingContext (some (place, selector)))
  else
    match registry.handler? call.name with
    | none => .fail (.unknownPseudo call.name place selector)
    | some handler => do
      let s ← Traced.ofExcept (context.nodeSet lib home)
      let v ← handler lib s (argumentValues call.arguments)
      Traced.ofExcept (resultSet lib home v)

def applySegment (context : Context) : Segment → Traced β NodeSet
  | .plain text _ => .ofExcept (Value.query lib home (.text text) context.value)
  | .pseudo text position call =>
    applyCall lib home registry selector ⟨text, position⟩ call context

def source : String := "pseudo_select.parsers.selector"

def evaluate (context : Context) : List Segment → Traced β Context
  | [] => .ok context
  | segment :: segments => do
    let s ← applySegment lib home registry selector context segment
    Traced.report .debug source
      (quoted selector ++ ": " ++ quoted segment.text ++ " -> " ++ toString s.size ++ " узл.")
    evaluate (.reached s) segments

def resolve (context : Value) : Traced β NodeSet := do
  registry.announce
  let segments ← Traced.ofExcept (segments selector)
  let context ← evaluate lib home registry selector (.ofValue context) segments
  Traced.ofExcept (context.nodeSet lib home)

end MarkupQuery.Pseudo
