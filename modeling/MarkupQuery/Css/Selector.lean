import MarkupQuery.Text.Direction

namespace MarkupQuery.Css

inductive Combinator
  | descendant
  | child
  | next
  | later
  deriving DecidableEq, Repr

inductive AttributeRelation
  | present
  | equal
  | word
  | dash
  | start
  | finish
  | part
  deriving DecidableEq, Repr

-- What is written before the bar of a name. Without a bar it is any namespace.
inductive Prefix
  | any
  | empty
  | named (label : String)
  deriving DecidableEq, Repr

def Prefix.ofText (s : String) : Prefix :=
  if s == "*" then .any else if s.isEmpty then .empty else .named s

def Prefix.isNamed : Prefix → Bool
  | named _ => true
  | _ => false

structure AttributeTest where
  space : Prefix
  name : String
  relation : AttributeRelation
  value : String
  -- Set by the flags `i` and `s`.
  ignoreCase : Option Bool
  deriving DecidableEq, Repr

-- What HTML elements may be, mostly those of forms.
inductive State
  | checked
  | default
  | defined
  | disabled
  | enabled
  | inRange
  | indeterminate
  | link
  | muted
  | open
  | optional
  | outOfRange
  | placeholderShown
  | readOnly
  | readWrite
  | required
  deriving DecidableEq, Repr

mutual

inductive Simple
  -- Without a name it is any element of the namespaces.
  | type (space : Prefix) (name : Option String)
  | id (name : String)
  | className (name : String)
  | attribute (test : AttributeTest)
  | root
  | scope
  | empty
  -- The places `step * k + offset` among the element children, from the first or the last.
  | nth (step offset : Int) (fromEnd ofType : Bool)
  | nthOf (step offset : Int) (fromEnd : Bool) (alternatives : List Complex)
  | state (state : State)
  | language (ranges : List String)
  | direction (direction : Text.Direction)
  | contains (own : Bool) (texts : List String)
  | anyOf (alternatives : List Complex)
  | noneOf (alternatives : List Complex)
  -- As `anyOf`, but in HTML documents only, where `html` is the one prefix.
  | inHtml (alternatives : List Complex)
  | has (alternatives : List Relative)

inductive Complex
  | never
  | compound (parts : List Simple)
  | combined (left : Complex) (combinator : Combinator) (parts : List Simple)

-- What must be found after and below an element, step by step. The marks of the steps tell them
-- apart within one selector.
inductive Relative
  | last (mark : Nat) (combinator : Combinator) (parts : List Simple)
  | step (mark : Nat) (combinator : Combinator) (parts : List Simple) (rest : Relative)

end

abbrev Selector := List Complex

def Simple.nothing : Simple := .anyOf []

def Simple.rank : Simple → Nat
  | .type .. | .root | .scope | .state .defined => 0
  | .nth .. | .nthOf .. => 1
  | .anyOf [] => 0
  | .anyOf _ | .noneOf _ | .inHtml _ | .has _ | .state _ | .direction _ | .contains .. => 3
  | _ => 2

-- Of the last rank all are asked, also after one that refuses.
def Simple.isGroup (s : Simple) : Bool := s.rank == 3

inductive Refusal
  | malformed
  -- An escape has a code beyond those of all characters.
  | beyondCodes
  -- There is a pseudo-element or an at-rule, for which nothing can be asked.
  | unsupported
  deriving DecidableEq, Repr

end MarkupQuery.Css
