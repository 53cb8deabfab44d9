import MarkupQuery.Fault
import MarkupQuery.Text.Blank
import MarkupQuery.Text.Digit

namespace MarkupQuery.Selector

open Text

inductive Argument
  | number (n : Nat)
  | word (s : String)
  deriving DecidableEq, Repr

structure Call where
  name : String
  arguments : List Argument
  deriving DecidableEq, Repr

inductive Refusal
  | spaced (argument : String)
  | digitLimit
  deriving DecidableEq, Repr

def Refusal.fault (selector : Option String) (position : Option Int) : Refusal → Fault
  | spaced argument => .malformed (.spacedArgument argument) selector position
  | digitLimit => .digitLimit

inductive Stop
  | malformed (cause : Malformation) (position : Nat)
  | digitLimit
  deriving DecidableEq, Repr

def Stop.fault (selector : Option String) : Stop → Fault
  | malformed cause position => .malformed cause selector (some (position : Int))
  | digitLimit => .digitLimit

def Refusal.stop (position : Nat) : Refusal → Stop
  | spaced argument => .malformed (.spacedArgument argument) position
  | digitLimit => .digitLimit

namespace Argument

def ofToken (cs : List Char) : Except Refusal Argument :=
  if !cs.isEmpty && cs.all isAsciiDigit then
    if cs.length ≤ digitLimit then .ok (number (ofDigits (cs.map asciiDigitValue)))
    else .error .digitLimit
  else .ok (word (String.ofList cs))

end Argument

def argumentTokens (cs : List Char) : List (List Char) :=
  ((pieces (· == ',') cs).map trim).filter fun token => !token.isEmpty

def readArgument (token : List Char) : Except Refusal Argument :=
  if token.any isGap then .error (.spaced (String.ofList token)) else Argument.ofToken token

def readEach : List (List Char) → Except Refusal (List Argument)
  | [] => .ok []
  | token :: tokens =>
    match readArgument token with
    | .error refusal => .error refusal
    | .ok argument =>
      match readEach tokens with
      | .error refusal => .error refusal
      | .ok arguments => .ok (argument :: arguments)

def readArguments (inside : List Char) : Except Refusal (List Argument) :=
  readEach (argumentTokens inside)

def isNameChar (c : Char) : Bool := !isGap c && c != '(' && c != ':'

def readCall (position : Nat) (cs : List Char) : Except Stop (Call × Nat) :=
  let name := cs.takeWhile isNameChar
  let start := position + 1 + name.length
  if name.isEmpty then .error (.malformed .missingName position)
  else match cs.dropWhile isNameChar with
    | '(' :: rest =>
      let inside := rest.takeWhile (· != ')')
      if !rest.contains ')' then .error (.malformed .openArguments start)
      else if inside.contains '(' then .error (.malformed .nestedArguments start)
      else match readArguments inside with
        | .error refusal => .error (refusal.stop (start + 1))
        | .ok arguments => .ok (⟨String.ofList name, arguments⟩, name.length + inside.length + 2)
    | _ => .ok (⟨String.ofList name, []⟩, name.length)

end MarkupQuery.Selector
