import MarkupQuery.Markup.Entity
import MarkupQuery.Text.Digit
import MarkupQuery.Text.Reading

namespace MarkupQuery.Markup

open Text

def replacement : Char := Char.ofNat 0xFFFD

def controlMeanings : List (Nat × Nat) := [
    (0x80, 0x20AC), (0x82, 0x201A), (0x83, 0x192), (0x84, 0x201E), (0x85, 0x2026), (0x86, 0x2020),
    (0x87, 0x2021), (0x88, 0x2C6), (0x89, 0x2030), (0x8A, 0x160), (0x8B, 0x2039), (0x8C, 0x152),
    (0x8E, 0x17D), (0x91, 0x2018), (0x92, 0x2019), (0x93, 0x201C), (0x94, 0x201D), (0x95, 0x2022),
    (0x96, 0x2013), (0x97, 0x2014), (0x98, 0x2DC), (0x99, 0x2122), (0x9A, 0x161), (0x9B, 0x203A),
    (0x9C, 0x153), (0x9E, 0x17E), (0x9F, 0x178)]

def isNoCode (n : Nat) : Bool := 0x10FFFF < n || (0xD800 ≤ n && n ≤ 0xDFFF)

def charOfCode (n : Nat) : Char :=
  if n = 0 || isNoCode n then replacement
  else Char.ofNat ((controlMeanings.lookup n).getD n)

def isHexDigit (c : Char) : Bool := (hexDigitValue? c).isSome

def numericCode : Reader Nat
  | '#' :: c :: cs =>
    if c == 'x' || c == 'X' then
      let ds := cs.takeWhile isHexDigit
      if ds.isEmpty then none
      else some (ofHexDigits (ds.filterMap hexDigitValue?), cs.drop ds.length)
    else
      let ds := (c :: cs).takeWhile isAsciiDigit
      if ds.isEmpty then none
      else some (ofDigits (ds.map asciiDigitValue), (c :: cs).drop ds.length)
  | _ => none

def skipSemicolon : List Char → List Char
  | ';' :: cs => cs
  | cs => cs

def openName? (name : List Char) : Nat → Option (List Char)
  | 0 => none
  | n + 1 =>
    if openEntities.contains (String.ofList (name.take (n + 1))) then some (name.take (n + 1))
    else openName? name n

def named? (cs : List Char) : Option (List Char × Bool × List Char) :=
  let name := cs.takeWhile Char.isAlphanum
  let closed := match cs.drop name.length with
    | ';' :: rest => (entity? (String.ofList name)).map fun chars => (chars, true, rest)
    | _ => none
  closed.or do
    let name ← openName? name (min name.length 6)
    let chars ← entity? (String.ofList name)
    return (chars, false, cs.drop name.length)

end MarkupQuery.Markup
