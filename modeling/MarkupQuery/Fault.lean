import MarkupQuery.Text.Quoted

namespace MarkupQuery

open Text

inductive Malformation
  | blank
  | openQuote
  | openBracket
  | missingName
  | openArguments
  | nestedArguments
  | spacedArgument (argument : String)
  | notOneCall
  | css
  | unselectable (shown : String)
  deriving DecidableEq, Repr

structure Place where
  segment : String
  position : Nat
  deriving DecidableEq, Repr

inductive Key
  | field (name : String)
  | index (i : Nat)
  deriving DecidableEq, Repr

inductive Mismatch
  | missing
  | notText
  | notDictionary
  | notList
  | notParser
  | unreadableBool
  | notBool
  | refused (reason : String)
  | frozen
  deriving DecidableEq, Repr

structure Issue where
  location : List Key
  mismatch : Mismatch
  deriving DecidableEq, Repr

inductive JsonCause
  | value
  | propertyName
  | colon
  | comma
  | extra
  | openString
  | control
  | badEscape
  | badCode
  | byteOrderMark
  deriving DecidableEq, Repr

structure JsonFault where
  cause : JsonCause
  line : Nat
  column : Nat
  offset : Nat
  deriving DecidableEq, Repr

inductive Fault
  | malformed (cause : Malformation) (selector : Option String) (position : Option Int)
  | missingContext (place : Option (Place × String))
  | unknownPseudo (name : String) (place : Place) (selector : String)
  | invalid (issues : List Issue)
  | json (fault : JsonFault)
  | digitLimit
  | codeLimit
  | unsupported
  | arity
  | notNodes
  | notFields
  | notIndex
  | noMembers
  | outOfRange
  | infiniteIndex
  | missingFile
  | existingFile
  | isDirectory
  | notDirectory
  | unknownParser
  deriving DecidableEq, Repr

namespace Malformation

def located (what selector : String) (position : Int) : String :=
  s!"{what} (позиция {position} в {quoted selector})"

def message (cause : Malformation) (selector : String) (position : Int) : String :=
  match cause with
  | blank => located "Пустой селектор" selector position
  | openQuote => located "Незакрытая кавычка" selector position
  | openBracket => located "Незакрытая квадратная скобка" selector position
  | missingName => located "Ожидается имя псевдо-класса после ':'" selector position
  | openArguments => located "Незакрытая скобка в аргументах псевдо-класса" selector position
  | nestedArguments =>
    located "Вложенные скобки в аргументах псевдо-класса не поддерживаются" selector position
  | spacedArgument argument =>
    "Пробелы в аргументах псевдо-класса не поддерживаются: " ++ quoted argument
  | notOneCall => "Ожидается один псевдо-класс: " ++ quoted selector
  | css => "Некорректный CSS-селектор " ++ quoted selector
  | unselectable shown => "Ожидается CSS-селектор или узлы, получено " ++ shown

end Malformation

namespace Mismatch

def code : Mismatch → String
  | missing => "missing"
  | notText => "string_type"
  | notDictionary => "dict_type"
  | notList => "list_type"
  | notParser => "enum"
  | unreadableBool => "bool_parsing"
  | notBool => "bool_type"
  | refused _ => "value_error"
  | frozen => "frozen_instance"

def message : Mismatch → String
  | missing => "Field required"
  | notText => "Input should be a valid string"
  | notDictionary => "Input should be a valid dictionary"
  | notList => "Input should be a valid list"
  | notParser => "Input should be 'lxml', 'html.parser', 'html5lib' or 'xml'"
  | unreadableBool => "Input should be a valid boolean, unable to interpret input"
  | notBool => "Input should be a valid boolean"
  | refused reason => "Value error, " ++ reason
  | frozen => "Instance is frozen"

end Mismatch

namespace JsonFault

def causeMessage : JsonCause → String
  | .value => "Expecting value"
  | .propertyName => "Expecting property name enclosed in double quotes"
  | .colon => "Expecting ':' delimiter"
  | .comma => "Expecting ',' delimiter"
  | .extra => "Extra data"
  | .openString => "Unterminated string starting at"
  | .control => "Invalid control character at"
  | .badEscape => "Invalid \\escape"
  | .badCode => "Invalid \\uXXXX escape"
  | .byteOrderMark => "Unexpected UTF-8 BOM (decode using utf-8-sig)"

def message (f : JsonFault) : String :=
  s!"{causeMessage f.cause}: line {f.line} column {f.column} (char {f.offset})"

end JsonFault

namespace Fault

def message? : Fault → Option String
  | malformed cause selector position =>
    some (cause.message (selector.getD "") (position.getD 0))
  | missingContext none => some "Контекст запроса не задан"
  | missingContext (some (place, selector)) =>
    some s!"Псевдо-класс {place.segment} не может стоять в начале запроса {selector}"
  | unknownPseudo _ place selector =>
    some s!"Неизвестный псевдо-класс {place.segment} в {selector}"
  | json fault => some fault.message
  | _ => none

def selector? : Fault → Option String
  | malformed _ selector _ => selector
  | missingContext place => place.map (·.2)
  | unknownPseudo _ _ selector => some selector
  | _ => none

def place? : Fault → Option Place
  | missingContext place => place.map (·.1)
  | unknownPseudo _ place _ => some place
  | _ => none

end Fault

end MarkupQuery
