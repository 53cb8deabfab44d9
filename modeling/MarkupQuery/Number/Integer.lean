import MarkupQuery.Text.Blank
import MarkupQuery.Text.Digit

namespace MarkupQuery.Number

open Text

def isPadding (c : Char) : Bool :=
  isBlank c && !(0x1C ≤ c.toNat && c.toNat ≤ 0x1F)

def unpadded (cs : List Char) : List Char :=
  ((cs.dropWhile isPadding).reverse.dropWhile isPadding).reverse

def digitsOf? : List Char → Option (List Nat)
  | [] => none
  | [c] => (digitValue? c).map ([·])
  | c :: '_' :: cs => do
    let d ← digitValue? c
    let ds ← digitsOf? cs
    return d :: ds
  | c :: cs => do
    let d ← digitValue? c
    let ds ← digitsOf? cs
    return d :: ds

def natOf? (cs : List Char) : Option Nat := do
  let ds ← digitsOf? cs
  if ds.length ≤ digitLimit then some (ofDigits ds) else none

def intOf? (cs : List Char) : Option Int :=
  match unpadded cs with
  | '-' :: ds => (natOf? ds).map fun n => -(n : Int)
  | '+' :: ds => (natOf? ds).map fun n => (n : Int)
  | ds => (natOf? ds).map fun n => (n : Int)

end MarkupQuery.Number
