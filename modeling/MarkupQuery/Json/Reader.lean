import MarkupQuery.Json.Token

namespace MarkupQuery.Json

inductive Frame
  | list (items : List Json)
  | member (members : List (String × Json)) (key : String)

inductive Expected
  | value (orEnd : Bool)
  | key (members : List (String × Json)) (orEnd : Bool)
  | colon (members : List (String × Json)) (key : String)
  | follow (v : Json)

inductive Stop
  | unreadable (cause : JsonCause) (offset : Nat)
  | tooManyDigits
  deriving DecidableEq, Repr

def assemble (expected : Expected) (frames : List Frame) :
    List (Nat × Token) → Except Stop Json
  | [] => .error (.unreadable .value 0)
  | (here, token) :: tokens =>
    match expected, token with
    | .value _, .scalar v => assemble (.follow v) frames tokens
    | .value _, .openList => assemble (.value true) (.list [] :: frames) tokens
    | .value _, .openObject => assemble (.key [] true) frames tokens
    | .value _, .broken cause offset => .error (.unreadable cause offset)
    | .value _, .tooManyDigits => .error .tooManyDigits
    | .value true, .closeList =>
      match frames with
      | .list _ :: outer => assemble (.follow (.list [])) outer tokens
      | _ => .error (.unreadable .value here)
    | .value _, _ => .error (.unreadable .value here)
    | .key members _, .scalar (.text key) => assemble (.colon members key) frames tokens
    | .key _ true, .closeObject => assemble (.follow (.object [])) frames tokens
    | .key _ _, .broken cause offset => .error (.unreadable cause offset)
    | .key _ _, _ => .error (.unreadable .propertyName here)
    | .colon members key, .colon => assemble (.value false) (.member members key :: frames) tokens
    | .colon _ _, _ => .error (.unreadable .colon here)
    | .follow v, token =>
      match frames, token with
      | [], .finish => .ok v
      | [], _ => .error (.unreadable .extra here)
      | .list items :: outer, .comma =>
        assemble (.value false) (.list (v :: items) :: outer) tokens
      | .list items :: outer, .closeList =>
        assemble (.follow (.list (v :: items).reverse)) outer tokens
      | .member members key :: outer, .comma =>
        assemble (.key (assign key v members) false) outer tokens
      | .member members key :: outer, .closeObject =>
        assemble (.follow (.object (assign key v members))) outer tokens
      | _, _ => .error (.unreadable .comma here)

def byteOrderMark : Char := Char.ofNat 0xFEFF

def ofChars? (cs : List Char) : Except Stop Json :=
  if cs.head? == some byteOrderMark then .error (.unreadable .byteOrderMark 0)
  else assemble (.value false) [] (tokens 0 cs)

def faultAt (cs : List Char) (cause : JsonCause) (offset : Nat) : JsonFault :=
  let before := cs.take offset
  ⟨cause, before.count '\n' + 1, (before.reverse.takeWhile (· != '\n')).length + 1, offset⟩

def read (text : String) : Except Fault Json :=
  match ofChars? text.toList with
  | .ok v => .ok v
  | .error (.unreadable cause offset) => .error (.json (faultAt text.toList cause offset))
  | .error .tooManyDigits => .error .digitLimit

end MarkupQuery.Json
