import MarkupQuery.Selector.Lexeme

namespace MarkupQuery.Selector

open Text

inductive Segment
  | plain (text : String) (position : Nat)
  | pseudo (text : String) (position : Nat) (call : Call)
  deriving DecidableEq, Repr

namespace Segment

def text : Segment → String
  | plain text _ => text
  | pseudo text _ _ => text

def position : Segment → Nat
  | plain _ position => position
  | pseudo _ position _ => position

def call? : Segment → Option Call
  | plain .. => none
  | pseudo _ _ call => some call

end Segment

def plainSegment (position : Nat) (cs : List Char) : List Segment :=
  if (trim cs).isEmpty then []
  else [.plain (String.ofList (trim cs)) (position + (cs.length - (trimStart cs).length))]

def gather (position : Nat) (plain : List Char) : List Lexeme → List Segment
  | [] => plainSegment position plain
  | ⟨text, none⟩ :: ls => gather position (plain ++ text) ls
  | ⟨text, some call⟩ :: ls =>
    plainSegment position plain ++
      .pseudo (String.ofList text) (position + plain.length) call ::
        gather (position + plain.length + text.length) [] ls

def segmentsOf (cs : List Char) : Except Stop (List Segment) :=
  if cs.all isBlank then .error (.malformed .blank 0)
  else (lexemes 0 cs).map (gather 0 [])

def segments (selector : String) : Except Fault (List Segment) :=
  (segmentsOf selector.toList).mapError (Stop.fault (some selector))

def singleCall (text : String) : Except Fault Call :=
  match segments text with
  | .error fault => .error fault
  | .ok [.pseudo _ _ call] => .ok call
  | .ok _ => .error (.malformed .notOneCall (some text) (some 0))

def arguments (selector : Option String) (position : Option Int) (inside : Option String) :
    Except Fault (List Argument) :=
  match inside with
  | none => .ok []
  | some inside => (readArguments inside.toList).mapError (Refusal.fault selector position)

def argument (token : String) : Except Fault Argument :=
  (Argument.ofToken token.toList).mapError (Refusal.fault none none)

end MarkupQuery.Selector
