import MarkupQuery.Json.Field
import MarkupQuery.Json.Members
import MarkupQuery.Text.Blank

namespace MarkupQuery.Extraction

open Json Text

structure Config where
  rows : String
  fields : List (String × String)
  skipIfBlank : Option (List String)
  repeatIfBlank : Option (List String)
  rows_shown : isBlankText rows = false
  fields_shown : ∀ f ∈ fields, isBlankText f.2 = false
  names_nodup : (fields.map (·.1)).Nodup
  deriving DecidableEq

namespace Config

def fieldNames (c : Config) : List String := c.fields.map (·.1)

def unknownNames (c : Config) : List String :=
  (firstNames (c.skipIfBlank.getD [] ++ c.repeatIfBlank.getD [])).filter fun name =>
    !c.fieldNames.contains name
where
  firstNames : List String → List String
    | [] => []
    | name :: names => name :: (firstNames names).filter (· != name)

def rowsOf : Option Json → Checked { s : String // isBlankText s = false }
  | none => .issue [.field "rows"] .missing
  | some v =>
    match textAt [.field "rows"] v with
    | .error issues => .error issues
    | .ok s =>
      if h : isBlankText s = false then .ok ⟨s, h⟩
      else .issue [.field "rows"] (.refused "rows не может быть пустым")

structure Fields where
  members : List (String × String)
  shown : ∀ f ∈ members, isBlankText f.2 = false
  nodup : (members.map (·.1)).Nodup

def fieldsOf : Option Json → Checked Fields
  | none => .issue [.field "fields"] .missing
  | some v =>
    match textMembersAt [.field "fields"] v with
    | .error issues => .error issues
    | .ok ms =>
      match h : (settled ms).find? (fun f => isBlankText f.2) with
      | some f =>
        .issue [.field "fields"] (.refused ("Пустой селектор для поля '" ++ f.1 ++ "'"))
      | none =>
        .ok ⟨settled ms, fun f hf => by simpa using List.find?_eq_none.mp h f hf,
          nodup_keys_settled ms⟩

def ofMembers (ms : List (String × Json)) : Checked Config :=
  let skip := optionalTextsAt [.field "skip_if_blank"] (ms.lookup "skip_if_blank")
  let repeated := optionalTextsAt [.field "repeat_if_blank"] (ms.lookup "repeat_if_blank")
  (Checked.and (rowsOf (ms.lookup "rows"))
    (Checked.and (fieldsOf (ms.lookup "fields")) (Checked.and skip repeated))).map
    fun (rows, fields, skip, repeated) =>
      ⟨rows.val, fields.members, skip, repeated, rows.property, fields.shown, fields.nodup⟩

def ofJson : Json → Except Fault Config
  | .object ms => (ofMembers ms).fault
  | _ => .error .notFields

def textsOrNull : Option (List String) → Json
  | none => .null
  | some ss => .ofTexts ss

def members (c : Config) : List (String × Json) :=
  [("rows", .text c.rows), ("fields", .ofTextMembers c.fields),
    ("skip_if_blank", textsOrNull c.skipIfBlank), ("repeat_if_blank", textsOrNull c.repeatIfBlank)]

def toJson (c : Config) : Json := .object c.members

def stored (c : Config) : Json := c.toJson.withoutNulls

def assigned (_ : Config) (name : String) (_ : Json) : Except Fault Config :=
  .error (.invalid [⟨[.field name], .frozen⟩])

end Config

end MarkupQuery.Extraction
