import MarkupQuery.Text.Digit

/-! Floating-point numbers as exact decimals with a sign, which also zero has, besides the
infinities and the value that is no number. -/

namespace MarkupQuery.Number

open Text

inductive Floating
  | nan
  | infinite (negative : Bool)
  | finite (negative : Bool) (digits : Nat) (exponent : Int)
  deriving DecidableEq, Repr

namespace Floating

def positionalLimit : Int := 16

def leadingZeroLimit : Int := 4

def stripZeros : List Char → List Char × Nat
  | [] => ([], 0)
  | c :: cs =>
    match stripZeros cs with
    | ([], n) => if c == '0' then ([], n + 1) else ([c], n)
    | (ds, n) => (c :: ds, n)

def zeros (n : Nat) : List Char := List.replicate n '0'

def exponentText (e : Int) : List Char :=
  let ds := (Nat.toDigits 10 e.natAbs)
  (if e < 0 then '-' else '+') :: (zeros (2 - ds.length) ++ ds)

def pointed (ds : List Char) (point : Int) : List Char :=
  if point ≤ 0 then '0' :: '.' :: zeros (-point).toNat ++ ds
  else
    let p := point.toNat
    if ds.length ≤ p then ds ++ zeros (p - ds.length) ++ ['.', '0']
    else ds.take p ++ '.' :: ds.drop p

def scientific (ds : List Char) (point : Int) : List Char :=
  match ds with
  | [] => []
  | [d] => d :: 'e' :: exponentText (point - 1)
  | d :: ds => d :: '.' :: ds ++ 'e' :: exponentText (point - 1)

def unsignedText (digits : Nat) (exponent : Int) : List Char :=
  if digits = 0 then ['0', '.', '0']
  else
    let (ds, dropped) := stripZeros (Nat.toDigits 10 digits)
    let point := ds.length + dropped + exponent
    if -leadingZeroLimit < point ∧ point ≤ positionalLimit then pointed ds point
    else scientific ds point

def text : Floating → String
  | nan => "nan"
  | infinite false => "inf"
  | infinite true => "-inf"
  | finite negative digits exponent =>
    String.ofList ((if negative then ['-'] else []) ++ unsignedText digits exponent)

def truncated (negative : Bool) (digits : Nat) (exponent : Int) : Int :=
  let size : Nat :=
    if exponent < 0 then digits / Nat.pow 10 exponent.natAbs else digits * Nat.pow 10 exponent.toNat
  if negative then -(size : Int) else size

def equalsNat (f : Floating) (n : Nat) : Bool :=
  match f with
  | finite negative digits exponent =>
    (!negative || digits == 0) &&
      (if exponent < 0 then digits == n * Nat.pow 10 exponent.natAbs
        else digits * Nat.pow 10 exponent.toNat == n)
  | _ => false

def hasFraction (f : Floating) : Bool :=
  match f with
  | finite _ digits exponent => exponent < 0 && digits % Nat.pow 10 exponent.natAbs != 0
  | _ => true

def ofParts (negative : Bool) (whole fraction : List Char) (exponent : Int) : Floating :=
  finite negative (ofDigits ((whole ++ fraction).map asciiDigitValue)) (exponent - fraction.length)

def signedNat (cs : List Char) : Int :=
  match cs with
  | '-' :: ds => -(ofDigits (ds.map asciiDigitValue) : Int)
  | '+' :: ds => ofDigits (ds.map asciiDigitValue)
  | ds => ofDigits (ds.map asciiDigitValue)

def ofUnsigned (negative : Bool) (cs : List Char) : Floating :=
  let whole := cs.takeWhile isAsciiDigit
  let rest := cs.dropWhile isAsciiDigit
  let (fraction, rest) := match rest with
    | '.' :: rest => (rest.takeWhile isAsciiDigit, rest.dropWhile isAsciiDigit)
    | rest => ([], rest)
  match rest with
  | 'e' :: e | 'E' :: e => ofParts negative whole fraction (signedNat e)
  | _ => ofParts negative whole fraction 0

def ofText (s : String) : Floating :=
  match s.toList with
  | ['n', 'a', 'n'] => nan
  | ['i', 'n', 'f'] => infinite false
  | ['-', 'i', 'n', 'f'] => infinite true
  | '-' :: cs => ofUnsigned true cs
  | cs => ofUnsigned false cs

end Floating

end MarkupQuery.Number
