import MarkupQuery.Fault
import MarkupQuery.Json.Value
import MarkupQuery.Text.Reading

namespace MarkupQuery.Json

open Number Text

inductive Token
  | openObject
  | closeObject
  | openList
  | closeList
  | colon
  | comma
  | scalar (v : Json)
  | broken (cause : JsonCause) (offset : Nat)
  | tooManyDigits
  | stray
  | finish

def isSpace (c : Char) : Bool := c == ' ' || c == '\t' || c == '\n' || c == '\r'

def shortEscape? (c : Char) : Option Char :=
  if c == '"' || c == '\\' || c == '/' then some c
  else if c == 'b' then some '\x08'
  else if c == 'f' then some '\x0c'
  else if c == 'n' then some '\n'
  else if c == 'r' then some '\r'
  else if c == 't' then some '\t'
  else none

def fourDigits? (a b c d : Char) : Option Nat := do
  let a ← hexDigitValue? a
  let b ← hexDigitValue? b
  let c ← hexDigitValue? c
  let d ← hexDigitValue? d
  return ofHexDigits [a, b, c, d]

def isHighHalf (n : Nat) : Bool := 0xD800 ≤ n && n ≤ 0xDBFF

def isLowHalf (n : Nat) : Bool := 0xDC00 ≤ n && n ≤ 0xDFFF

def joinHalves (high low : Nat) : Nat := 0x10000 + 0x400 * (high - 0xD800) + (low - 0xDC00)

def replacement : Char := Char.ofNat 0xFFFD

def charOf (n : Nat) : Char := if isHighHalf n || isLowHalf n then replacement else Char.ofNat n

def code? : List Char → Option Nat
  | a :: b :: c :: d :: _ :: _ => fourDigits? a b c d
  | _ => none

def readEscape (start here : Nat) : List Char → Except (JsonCause × Nat) (Char × Nat)
  | [] => .error (.openString, start)
  | 'u' :: cs =>
    match code? cs with
    | none => .error (.badCode, here + 1)
    | some high =>
      match isHighHalf high, cs.drop 4 with
      | true, '\\' :: 'u' :: rest =>
        if rest.length < 5 then .ok (charOf high, 5)
        else match code? rest with
          | none => .error (.badCode, here + 7)
          | some low =>
            if isLowHalf low then .ok (Char.ofNat (joinHalves high low), 11)
            else .ok (charOf high, 5)
      | _, _ => .ok (charOf high, 5)
  | c :: _ =>
    match shortEscape? c with
    | some d => .ok (d, 1)
    | none => .error (.badEscape, here)

def readText (start here : Nat) : List Char → Except (JsonCause × Nat) (List Char × Nat)
  | [] => .error (.openString, start)
  | c :: cs =>
    if c == '"' then .ok ([], here)
    else if c == '\\' then
      match readEscape start here cs with
      | .error e => .error e
      | .ok (d, n) =>
        match readText start (here + 1 + n) (cs.drop n) with
        | .error e => .error e
        | .ok (ds, stop) => .ok (d :: ds, stop)
    else if c.toNat ≤ 0x1F then .error (.control, here)
    else
      match readText start (here + 1) cs with
      | .error e => .error e
      | .ok (ds, stop) => .ok (c :: ds, stop)
termination_by cs => cs.length

def fractionOf (cs : List Char) : List Char :=
  match cs with
  | '.' :: rest => rest.takeWhile isAsciiDigit
  | _ => []

def exponentOf (cs : List Char) : List Char :=
  match cs with
  | c :: rest =>
    if c == 'e' || c == 'E' then
      let sign := match rest with
        | s :: _ => if s == '+' || s == '-' then [s] else []
        | [] => []
      let digits := (rest.drop sign.length).takeWhile isAsciiDigit
      if digits.isEmpty then [] else c :: sign ++ digits
    else []
  | [] => []

def wholeOf (cs : List Char) : List Char :=
  match cs with
  | '0' :: _ => ['0']
  | cs => cs.takeWhile isAsciiDigit

def readNumber (negative : Bool) (cs : List Char) : Token × Nat :=
  let whole := wholeOf cs
  if whole.isEmpty then (.stray, 0)
  else
    let fraction := fractionOf (cs.drop whole.length)
    let point := if fraction.isEmpty then [] else '.' :: fraction
    let exponent := exponentOf (cs.drop (whole.length + point.length))
    let size := whole.length + point.length + exponent.length
    if point.isEmpty && exponent.isEmpty then
      if digitLimit < whole.length then (.tooManyDigits, size)
      else
        let n := ofDigits (whole.map asciiDigitValue)
        (.scalar (.int (if negative then -n else n)), size)
    else (.scalar (.float (.ofUnsigned negative (whole ++ point ++ exponent))), size)

def words : List (String × Json) :=
  [("null", .null), ("true", .bool true), ("false", .bool false), ("NaN", .float .nan),
    ("Infinity", .float (.infinite false)), ("-Infinity", .float (.infinite true))]

def readWord? (cs : List Char) : Option (Token × Nat) :=
  (words.find? fun w => w.1.toList.isPrefixOf cs).map fun w => (.scalar w.2, w.1.length)

def readToken (here : Nat) (c : Char) (rest : List Char) : Token × Nat :=
  if c == '\x7b' then (.openObject, 1)
  else if c == '\x7d' then (.closeObject, 1)
  else if c == '[' then (.openList, 1)
  else if c == ']' then (.closeList, 1)
  else if c == ':' then (.colon, 1)
  else if c == ',' then (.comma, 1)
  else if c == '"' then
    match readText here (here + 1) rest with
    | .ok (cs, stop) => (.scalar (.text (String.ofList cs)), stop + 1 - here)
    | .error (cause, offset) => (.broken cause offset, 1)
  else match readWord? (c :: rest) with
    | some found => found
    | none =>
      if c == '-' then
        let (token, n) := readNumber true rest
        (token, n + 1)
      else readNumber false (c :: rest)

def Token.isLast : Token → Bool
  | broken .. => true
  | tooManyDigits => true
  | stray => true
  | finish => true
  | _ => false

def tokens (here : Nat) : List Char → List (Nat × Token)
  | [] => [(here, .finish)]
  | c :: rest =>
    if isSpace c then tokens (here + 1) rest
    else
      let (token, n) := readToken here c rest
      if token.isLast then [(here, token)]
      else (here, token) :: tokens (here + 1 + (n - 1)) (rest.drop (n - 1))
termination_by cs => cs.length

end MarkupQuery.Json
