import MarkupQuery.Json.Value

namespace MarkupQuery.Json

open Number Text

def escapeChar (c : Char) : List Char :=
  if c == '"' || c == '\\' then ['\\', c]
  else if c == '\n' then ['\\', 'n']
  else if c == '\r' then ['\\', 'r']
  else if c == '\t' then ['\\', 't']
  else if c == '\x0c' then ['\\', 'f']
  else if c == '\x08' then ['\\', 'b']
  else if c.toNat ≤ 0x1F then '\\' :: 'u' :: hexDigits 4 c.toNat
  else [c]

def writeText (s : String) : List Char := '"' :: s.toList.flatMap escapeChar ++ ['"']

def writeFloat : Floating → List Char
  | .nan => "NaN".toList
  | .infinite false => "Infinity".toList
  | .infinite true => "-Infinity".toList
  | f => f.text.toList

def indentWidth : Nat := 2

def newLine (depth : Nat) : List Char := '\n' :: List.replicate (indentWidth * depth) ' '

mutual

def write (depth : Nat) : Json → List Char
  | null => "null".toList
  | bool true => "true".toList
  | bool false => "false".toList
  | int i => (toString i).toList
  | float f => writeFloat f
  | text s => writeText s
  | list [] => "[]".toList
  | list (v :: vs) =>
    '[' :: newLine (depth + 1) ++ write (depth + 1) v ++ writeItems (depth + 1) vs ++
      newLine depth ++ [']']
  | object [] => ['\x7b', '\x7d']
  | object ((k, v) :: ms) =>
    '\x7b' :: newLine (depth + 1) ++ writeText k ++ [':', ' '] ++ write (depth + 1) v ++
      writeMembers (depth + 1) ms ++ newLine depth ++ ['\x7d']

def writeItems (depth : Nat) : List Json → List Char
  | [] => []
  | v :: vs => ',' :: newLine depth ++ write depth v ++ writeItems depth vs

def writeMembers (depth : Nat) : List (String × Json) → List Char
  | [] => []
  | (k, v) :: ms =>
    ',' :: newLine depth ++ writeText k ++ [':', ' '] ++ write depth v ++ writeMembers depth ms

end

def render (v : Json) : String := String.ofList (write 0 v)

end MarkupQuery.Json
