import MarkupQuery.Json.Field
import MarkupQuery.Json.Members
import MarkupQuery.Markup.Engine
import MarkupQuery.Number.Binary
import MarkupQuery.Text.Letter

namespace MarkupQuery

open Json Markup Number Text

structure Settings where
  engine : Engine
  level : Level
  verbose : Bool
  directory : String
  extras : List (String × Json)

namespace Settings

def ownNames : List String := ["parser", "log_level", "verbose", "config_dir"]

def default : Settings := ⟨.completing, .info, false, "config", []⟩

def engineAt (location : List Key) (v : Json) : Checked Engine :=
  match v with
  | .text s =>
    match Engine.ofName? s with
    | some e => .ok e
    | none => .issue location .notParser
  | _ => .issue location .notParser

def levelAt (location : List Key) (v : Json) : Checked Level :=
  match textAt location v with
  | .error issues => .error issues
  | .ok s =>
    match Level.ofName? (uppered s) with
    | some l => .ok l
    | none => .issue location (.refused ("Неизвестный уровень логирования: " ++ s))

def truthWords : List String := ["1", "true", "t", "yes", "y", "on"]

def falsityWords : List String := ["0", "false", "f", "no", "n", "off"]

def wholeLimit : Nat := Nat.pow 2 63

def isWhole (f : Floating) : Bool :=
  match f with
  | .finite negative digits exponent =>
    !f.hasFraction && (Floating.truncated negative digits exponent).natAbs < wholeLimit
  | _ => false

def truthAt (location : List Key) (v : Json) : Checked Bool :=
  match v with
  | .bool b => .ok b
  | .int 0 => .ok false
  | .int 1 => .ok true
  | .int _ => .issue location .unreadableBool
  | .float f =>
    let f := f.nearest
    if f.equalsNat 0 then .ok false
    else if f.equalsNat 1 then .ok true
    else if isWhole f then .issue location .unreadableBool
    else .issue location .notBool
  | .text s =>
    if truthWords.contains (lowered s) then .ok true
    else if falsityWords.contains (lowered s) then .ok false
    else .issue location .unreadableBool
  | _ => .issue location .notBool

def memberOr {α : Type} (ms : List (String × Json)) (name : String) (default : α)
    (read : List Key → Json → Checked α) : Checked α :=
  match ms.lookup name with
  | none => .ok default
  | some v => read [.field name] v

def ofMembers (ms : List (String × Json)) : Checked Settings :=
  (Checked.and (memberOr ms "parser" default.engine engineAt)
    (Checked.and (memberOr ms "log_level" default.level levelAt)
      (Checked.and (memberOr ms "verbose" default.verbose truthAt)
        (memberOr ms "config_dir" default.directory textAt)))).map
    fun (engine, level, verbose, directory) =>
      ⟨engine, level, verbose, directory,
        (settled ms).filter fun m => !ownNames.contains m.1⟩

def ofJson : Json → Except Fault Settings
  | .object ms => (ofMembers ms).fault
  | _ => .error .notFields

def members (s : Settings) : List (String × Json) :=
  [("parser", .text s.engine.name), ("log_level", .text s.level.name),
    ("verbose", .bool s.verbose), ("config_dir", .text s.directory)] ++ s.extras

def toJson (s : Settings) : Json := .object s.members

def assigned (s : Settings) (name : String) (v : Json) : Json := .object (assign name v s.members)

end Settings

end MarkupQuery
