import MarkupQuery.Css.Element
import MarkupQuery.Number.Binary
import MarkupQuery.Text.Digit

namespace MarkupQuery.Css

open Text Number

inductive Field
  | digits (count : Nat) (more : Bool)
  | sign (c : Char)

def digitsOnly (ds : List Char) : Bool := !ds.isEmpty && ds.all isAsciiDigit

def fieldsOf : List Field → List Char → Option (List Nat)
  | [], cs => if AttributeTest.isEnd cs then some [] else none
  | .sign c :: fields, d :: cs => if c == d then fieldsOf fields cs else none
  | .sign _ :: _, [] => none
  | .digits count more :: fields, cs =>
    let ds := cs.takeWhile isAsciiDigit
    let ds := if more then ds else ds.take count
    if ds.length < count then none
    else (fieldsOf fields (cs.drop ds.length)).map (ofDigits (ds.map asciiDigitValue) :: ·)

def year : Field := .digits 4 true

def two : Field := .digits 2 false

def isLeap (year : Nat) : Bool := year % 4 == 0 && year % 100 != 0 || year % 400 == 0

def daysIn (year month : Nat) : Nat :=
  if month == 2 then (if isLeap year then 29 else 28)
  else if [4, 6, 9, 11].contains month then 30
  else 31

def lastWeekday (year : Nat) : Nat := (365 * year + year / 4 - year / 100 + year / 400 - 1) % 7

-- The last week that may be given for a year: also where the last days of a year belong to the
-- first week of the next one it is the 53rd.
def lastWeek (year : Nat) : Nat :=
  if lastWeekday year ≤ 3 || lastWeekday year == 4 && isLeap year then 53 else 52

def between (low n high : Nat) : Bool := low ≤ n && n ≤ high

def isDay (year month day : Nat) : Bool :=
  1 ≤ year && between 1 month 12 && between 1 day (daysIn year month)

def isTime (hour minute : Nat) : Bool := hour ≤ 23 && minute ≤ 59

def isDecimal (cs : List Char) : Bool :=
  let cs := if cs.head? == some '-' then cs.tail else cs
  let whole := cs.takeWhile isAsciiDigit
  match cs.drop whole.length with
  | '.' :: rest => digitsOnly (rest.takeWhile isAsciiDigit) &&
      AttributeTest.isEnd (rest.dropWhile isAsciiDigit)
  | rest => !whole.isEmpty && AttributeTest.isEnd rest

def units : Floating → Int
  | .nan => 0
  | .infinite negative => (if negative then -1 else 1) * (Nat.pow 10 2000 : Int)
  | .finite negative digits exponent =>
    (if negative then -1 else 1) * (digits * Nat.pow 10 (exponent - leastExponent).toNat : Nat)

def fieldValue? (type : String) (value : String) : Option (List Int) :=
  let cs := value.toList
  let read (fields : List Field) (valid : List Nat → Bool) : Option (List Int) :=
    ((fieldsOf fields cs).filter valid).map fun ns => ns.map Int.ofNat
  match type with
  | "date" => read [year, .sign '-', two, .sign '-', two] fun
    | [y, m, d] => isDay y m d
    | _ => false
  | "month" => read [year, .sign '-', two] fun
    | [y, m] => isDay y m 1
    | _ => false
  | "week" => read [year, .sign '-', .sign 'W', two] fun
    | [y, w] => 1 ≤ y && between 1 w (lastWeek y)
    | _ => false
  | "time" => read [two, .sign ':', two] fun
    | [h, m] => isTime h m
    | _ => false
  | "datetime-local" =>
    read [year, .sign '-', two, .sign '-', two, .sign 'T', two, .sign ':', two] fun
    | [y, m, d, h, n] => isDay y m d && isTime h n
    | _ => false
  | "number" | "range" =>
    if isDecimal cs then
      some [units (Floating.ofText (String.ofList (cs.filter (· != '\n')))).nearest]
    else none
  | _ => none

def isLess (a b : List Int) : Bool := decide (a < b)

def isOutside (type : String) (low? high? : Option (List Int)) (value : List Int) : Bool :=
  let below := low?.any (isLess value)
  let above := high?.any (isLess · value)
  match low?, high? with
  | some low, some high =>
    if type == "time" && isLess high low then below && above else below || above
  | _, _ => below || above

def isWithin? (lib : Library) (n : Node) : Option Bool :=
  let type := lowered ((attributeOf? lib n "type").getD "")
  let read (name : String) : Option (List Int) :=
    (attributeOf? lib n name).bind (fieldValue? type)
  match read "min", read "max" with
  | none, none => none
  | low?, high? =>
    some (match read "value" with
      | some value => !isOutside type low? high? value
      | none => true)

end MarkupQuery.Css
