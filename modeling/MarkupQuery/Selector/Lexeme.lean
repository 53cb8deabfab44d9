import MarkupQuery.Selector.Call

/-! The smallest parts of a selector: escapes, quoted texts, bracket blocks, calls, and single
characters. The texts of a selector's lexemes make up the selector. -/

namespace MarkupQuery.Selector

open Text

structure Lexeme where
  text : List Char
  call? : Option Call
  deriving DecidableEq, Repr

def isQuote (c : Char) : Bool := c == '"' || c == '\''

def quotedSpan (quote : Char) : List Char → Option Nat
  | [] => none
  | ['\\'] => none
  | '\\' :: _ :: cs => (quotedSpan quote cs).map (· + 2)
  | c :: cs => if c == quote then some 1 else (quotedSpan quote cs).map (· + 1)

inductive BlockEnd
  | closed (length : Nat)
  | openQuote (offset : Nat)
  | openBracket
  deriving DecidableEq, Repr

def blockSpan (quote : Option (Char × Nat)) (n : Nat) : List Char → BlockEnd
  | [] | ['\\'] =>
    match quote with
    | some (_, offset) => .openQuote offset
    | none => .openBracket
  | '\\' :: _ :: cs => blockSpan quote (n + 2) cs
  | c :: cs =>
    match quote with
    | some (q, _) => blockSpan (if c == q then none else quote) (n + 1) cs
    | none =>
      if c == ']' then .closed (n + 1)
      else blockSpan (if isQuote c then some (c, n) else none) (n + 1) cs

def extent (position : Nat) (c : Char) (rest : List Char) : Except Stop (Option Call × Nat) :=
  if c == '\\' then .ok (none, (rest.take 1).length)
  else if c == ':' then (readCall position rest).map fun (call, n) => (some call, n)
  else if c == '[' then
    match blockSpan none 0 rest with
    | .closed n => .ok (none, n)
    | .openQuote offset => .error (.malformed .openQuote (position + 1 + offset))
    | .openBracket => .error (.malformed .openBracket position)
  else if isQuote c then
    match quotedSpan c rest with
    | some n => .ok (none, n)
    | none => .error (.malformed .openQuote position)
  else .ok (none, 0)

def lexemes (position : Nat) : List Char → Except Stop (List Lexeme)
  | [] => .ok []
  | c :: rest =>
    match extent position c rest with
    | .error stop => .error stop
    | .ok (call?, n) =>
      match lexemes (position + 1 + n) (rest.drop n) with
      | .error stop => .error stop
      | .ok ls => .ok (⟨c :: rest.take n, call?⟩ :: ls)
termination_by cs => cs.length

end MarkupQuery.Selector
