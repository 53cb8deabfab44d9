import MarkupQuery.Schema.Basic
import MarkupQuery.Text.Order

namespace MarkupQuery.Schema

open Text

structure Violation where
  path : List String
  keyword : String
  deriving DecidableEq, Repr

namespace Violation

def inside (step : String) (v : Violation) : Violation := ⟨step :: v.path, v.keyword⟩

def pathLe : List String → List String → Bool
  | [], _ => true
  | _ :: _, [] => false
  | a :: as, b :: bs => if a = b then pathLe as bs else textLe a b

def le (v w : Violation) : Bool :=
  if v.path = w.path then textLe v.keyword w.keyword else pathLe v.path w.path

end Violation

def demand (condition : Bool) (keyword : String) : List Violation :=
  if condition then [] else [⟨[], keyword⟩]

def isChoice (choices : List String) : Json → Bool
  | .text s => choices.contains s
  | _ => false

def isLongEnough (least : Nat) : Json → Bool
  | .text s => least ≤ s.length
  | _ => true

def inItems (check : Json → List Violation) : Json → List Violation
  | .list vs => go 0 vs
  | _ => []
where
  go (i : Nat) : List Json → List Violation
    | [] => []
    | v :: vs => (check v).map (Violation.inside (toString i)) ++ go (i + 1) vs

def inMember (name : String) (check : Json → List Violation) : Json → List Violation
  | .object ms =>
    match ms.lookup name with
    | some v => (check v).map (Violation.inside name)
    | none => []
  | _ => []

def membersOf : Json → List (String × Json)
  | .object ms => ms
  | _ => []

def otherMembers (names : List String) (v : Json) : List (String × Json) :=
  (membersOf v).filter fun m => !names.contains m.1

def missing (required : List String) : Json → List Violation
  | .object ms => required.flatMap fun name => demand (ms.any (·.1 == name)) "required"
  | _ => []

def propertyNames : Option (List (String × Schema)) → List String
  | none => []
  | some ps => ps.map (·.1)

mutual

def violations : Schema → Json → List Violation
  | ⟨_, kinds, choices, minLength, items, properties, required, others⟩, v =>
    demand (kinds.contains (Kind.ofJson v)) "type" ++
      choices.toList.flatMap (fun ss => demand (isChoice ss v) "enum") ++
      minLength.toList.flatMap (fun n => demand (isLongEnough n v) "minLength") ++
      itemViolations items v ++ propertyViolations properties v ++ missing required v ++
      otherViolations others (otherMembers (propertyNames properties) v)

def itemViolations : Option Schema → Json → List Violation
  | none, _ => []
  | some s, v => inItems (violations s) v

def propertyViolations : Option (List (String × Schema)) → Json → List Violation
  | none, _ => []
  | some ps, v => memberViolations ps v

def memberViolations : List (String × Schema) → Json → List Violation
  | [], _ => []
  | (name, s) :: ps, v => inMember name (violations s) v ++ memberViolations ps v

def otherViolations : Others Schema → List (String × Json) → List Violation
  | .free, _ => []
  | .forbidden, ms => demand ms.isEmpty "additionalProperties"
  | .each s, ms => ms.flatMap fun m => (violations s m.2).map (Violation.inside m.1)

end

def check (s : Schema) (v : Json) : List Violation := (s.violations v).mergeSort Violation.le

def accepts (s : Schema) (v : Json) : Bool := (s.violations v).isEmpty

end MarkupQuery.Schema
