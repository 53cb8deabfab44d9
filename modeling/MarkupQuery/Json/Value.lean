import MarkupQuery.Number.Floating

/-! JSON values. Whole numbers and numbers with a point or an exponent are told apart, and the
members of an object keep their order. -/

namespace MarkupQuery

open Number

inductive Json
  | null
  | bool (b : Bool)
  | int (i : Int)
  | float (f : Floating)
  | text (s : String)
  | list (items : List Json)
  | object (members : List (String × Json))
  deriving Repr

def assign {α : Type} (key : String) (value : α) : List (String × α) → List (String × α)
  | [] => [(key, value)]
  | (k, v) :: members =>
    if k = key then (k, value) :: members else (k, v) :: assign key value members

namespace Json

def isNull : Json → Bool
  | null => true
  | _ => false

def ofTexts (ss : List String) : Json := list (ss.map text)

def ofTextMembers (ms : List (String × String)) : Json := object (ms.map fun m => (m.1, text m.2))

mutual

def withoutNulls : Json → Json
  | object members => object (membersWithoutNulls members)
  | list items => list (itemsWithoutNulls items)
  | v => v

def itemsWithoutNulls : List Json → List Json
  | [] => []
  | v :: vs => withoutNulls v :: itemsWithoutNulls vs

def membersWithoutNulls : List (String × Json) → List (String × Json)
  | [] => []
  | (_, null) :: ms => membersWithoutNulls ms
  | (k, v) :: ms => (k, withoutNulls v) :: membersWithoutNulls ms

end

end Json

end MarkupQuery
