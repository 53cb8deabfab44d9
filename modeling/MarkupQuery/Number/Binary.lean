import MarkupQuery.Number.Floating

namespace MarkupQuery.Number

def roundDiv (num den : Nat) : Nat :=
  let q := num / den
  let r := 2 * (num % den)
  if r < den || (r == den && q % 2 == 0) then q else q + 1

def timesPower (num den : Nat) (e : Int) : Nat :=
  if e < 0 then roundDiv (num * Nat.pow 2 e.natAbs) den else roundDiv num (den * Nat.pow 2 e.toNat)

def leastExponent : Int := -1074

def endExponent : Nat := 1024

def unitExponent (num den : Nat) : Int :=
  let e : Int := (num.log2 : Int) - den.log2 - 52
  let isTooLarge :=
    if e < 0 then num * Nat.pow 2 e.natAbs < den * Nat.pow 2 52
    else num < den * Nat.pow 2 e.toNat * Nat.pow 2 52
  let e := if isTooLarge then e - 1 else e
  if e < leastExponent then leastExponent else e

namespace Floating

def ofQuotient (negative : Bool) (num den : Nat) : Floating :=
  let e := unitExponent num den
  let m := timesPower num den e
  if e < 0 then finite negative (m * Nat.pow 5 e.natAbs) e
  else if Nat.pow 2 endExponent ≤ m * Nat.pow 2 e.toNat then infinite negative
  else finite negative (m * Nat.pow 2 e.toNat) 0

def wholeDigitLimit : Int := 310

def zeroDigitLimit : Int := 330

def nearest : Floating → Floating
  | finite negative digits exponent =>
    let size := (Nat.toDigits 10 digits).length + exponent
    if digits = 0 || size < -zeroDigitLimit then finite negative 0 0
    else if wholeDigitLimit < size then infinite negative
    else if exponent < 0 then ofQuotient negative digits (Nat.pow 10 exponent.natAbs)
    else ofQuotient negative (digits * Nat.pow 10 exponent.toNat) 1
  | f => f

end Floating

end MarkupQuery.Number
