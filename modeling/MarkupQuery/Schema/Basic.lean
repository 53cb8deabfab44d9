import MarkupQuery.Json.Value

namespace MarkupQuery

inductive Kind
  | null
  | boolean
  | number
  | string
  | array
  | object
  deriving DecidableEq, Repr

namespace Kind

def name : Kind → String
  | null => "null"
  | boolean => "boolean"
  | number => "number"
  | string => "string"
  | array => "array"
  | object => "object"

def ofJson : Json → Kind
  | .null => null
  | .bool _ => boolean
  | .int _ => number
  | .float _ => number
  | .text _ => string
  | .list _ => array
  | .object _ => object

end Kind

inductive Others (α : Type)
  | free
  | forbidden
  | each (schema : α)

structure Schema where
  notes : List (String × Json)
  kinds : List Kind
  choices : Option (List String)
  minLength : Option Nat
  items : Option Schema
  properties : Option (List (String × Schema))
  required : List String
  others : Others Schema

namespace Schema

def ofKinds (notes : List (String × Json)) (kinds : List Kind) : Schema :=
  ⟨notes, kinds, none, none, none, none, [], .free⟩

def kindsJson : List Kind → Json
  | [k] => .text k.name
  | ks => .list (ks.map fun k => .text k.name)

mutual

def toJson : Schema → Json
  | ⟨notes, kinds, choices, minLength, items, properties, required, others⟩ =>
    .object (notes ++ ("type", kindsJson kinds) ::
      (choices.map fun ss => ("enum", Json.ofTexts ss)).toList ++
      (minLength.map fun n => ("minLength", Json.int n)).toList ++
      itemsJson items ++ propertiesJson properties ++
      (if required.isEmpty then [] else [("required", Json.ofTexts required)]) ++
      othersJson others)

def itemsJson : Option Schema → List (String × Json)
  | none => []
  | some s => [("items", toJson s)]

def propertiesJson : Option (List (String × Schema)) → List (String × Json)
  | none => []
  | some ps => [("properties", .object (membersJson ps))]

def membersJson : List (String × Schema) → List (String × Json)
  | [] => []
  | (name, s) :: ps => (name, toJson s) :: membersJson ps

def othersJson : Others Schema → List (String × Json)
  | .free => []
  | .forbidden => [("additionalProperties", .bool false)]
  | .each s => [("additionalProperties", toJson s)]

end

end Schema

end MarkupQuery
