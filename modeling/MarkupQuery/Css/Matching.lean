import MarkupQuery.Css.Language
import MarkupQuery.Css.State

namespace MarkupQuery.Css

open Markup Text

structure Origin where
  scope : Option Node
  prefixes : Prefixes
  -- Whether a frame hides what lies in it from what lies around it.
  closesFrames : Bool

def Origin.html (o : Origin) : Origin := ⟨o.scope, [("html", htmlSpace)], true⟩

variable (lib : Library)

def before (n : Node) : Combinator → List Node
  | .descendant => n.ancestors
  | .child => n.parent?.toList
  | .next => (lib.precedingElements n).take 1
  | .later => lib.precedingElements n

def after (n : Node) : Combinator → List Node
  | .descendant => lib.descendantElements n
  | .child => lib.childElements n
  | .next => (lib.followingElements n).take 1
  | .later => lib.followingElements n

def Origin.before (o : Origin) (n : Node) (c : Combinator) : List Node :=
  let ns := Css.before lib n c
  if o.closesFrames && (c == .descendant || c == .child) then ns.takeWhile fun a => !isFrame lib a
  else ns

def Origin.after (o : Origin) (n : Node) (c : Combinator) : List Node :=
  if o.closesFrames && c == .descendant then elementsInside lib n
  else if o.closesFrames && c == .child && isFrame lib n then []
  else Css.after lib n c

structure Memory where
  -- For a parent, and the mark of a step to later siblings, the position of the last child that was
  -- reached from the first node that was asked.
  later : List ((Option Node × Nat) × Option Nat)
  -- The documents in which no language was found. From then on theirs is the empty one.
  unlabelled : List Node

def Memory.empty : Memory := ⟨[], []⟩

/-- Whether a later sibling is taken to be reached, where one at the position `last` is known. Of a
node with a sibling right after it that sibling must stand before the known one; a node without any
counts as one that reaches it. -/
def reachesKnown (last : Option Nat) (n : Node) : Bool :=
  match last, (lib.following n).head?.bind (·.path.getLast?) with
  | none, _ => false
  | some _, none => true
  | some l, some i => i < l

/-- The first node that is asked below a parent looks for the last of its later siblings that
passes a test; the other nodes are answered from what it found. -/
def reachesLater (mark : Nat) (n : Node) (test : Node → StateM Memory Bool) :
    StateM Memory Bool := do
  match (← get).later.lookup (n.parent?, mark) with
  | some last => return reachesKnown lib last n
  | none =>
    let found ← (lib.followingElements n).reverse.findM? test
    modify fun memory =>
      { memory with later := ((n.parent?, mark), found.bind (·.path.getLast?)) :: memory.later }
    return found.isSome

def reaches (o : Origin) (mark : Nat) (c : Combinator) (n : Node)
    (test : Node → StateM Memory Bool) : StateM Memory Bool :=
  match c with
  | .later => reachesLater lib mark n test
  | c => (o.after lib n c).anyM test

def languageOf? (n : Node) : StateM Memory (Option String) := do
  let top := ((n :: outerNodes lib n).getLast?).getD n
  match givenLanguage? lib n, headOf? lib top with
  | some l, _ => return some l
  | none, none => return none
  | none, some head =>
    match headLanguage? lib head with
    | some l => return some l
    | none =>
      if (← get).unlabelled.contains top then return some ""
      else
        modify fun memory => { memory with unlabelled := top :: memory.unlabelled }
        return none

def keepM (test : Node → StateM Memory Bool) : List Node → StateM Memory (List Node)
  | [] => return []
  | n :: ns => do
    let found ← test n
    let rest ← keepM test ns
    return if found then n :: rest else rest

mutual

def Simple.accepts (o : Origin) : Simple → Node → StateM Memory Bool
  | .type space name, n =>
    return inSpace lib o.prefixes n space && name.all fun name => isNamed lib n [name]
  | .id name, n => return idOf lib n == name
  | .className name, n => return (classes lib n).contains name
  | .attribute test, n =>
    match attributeContent? lib o.prefixes n test.space test.name with
    | some content => return test.accepts (lib.dialect n.document) content
    | none => return false
  | .root, n => return isDocumentElement lib n
  | .scope, n => return o.scope == some n
  | .empty, n => return isEmptyElement lib n
  | .nth step offset fromEnd ofType, n => return isNth step offset (place lib n fromEnd ofType)
  | .nthOf step offset fromEnd alternatives, n => do
    if ← anyAccepts o alternatives n then
      let counted ← keepM (fun m => anyAccepts o alternatives m) (beside lib n fromEnd)
      return isNth step offset (counted.length + 1)
    else return false
  | .state s, n => return isInState lib n s
  | .language ranges, n => do
    return (← languageOf? lib n).any fun l => ranges.any fun range => inRange range l
  | .direction d, n => return hasDirection lib n d
  | .contains own texts, n => return containsText lib own texts n
  | .anyOf alternatives, n => anyAccepts o alternatives n
  | .noneOf alternatives, n => return !(← anyAccepts o alternatives n)
  | .inHtml alternatives, n =>
    if isHtml lib n.document then anyAccepts o.html alternatives n else return false
  | .has alternatives, n => anyReached o alternatives n

def allAccept (o : Origin) : List Simple → Node → StateM Memory Bool
  | [], _ => return true
  | s :: ss, n => do
    let accepted ← s.accepts o n
    if accepted || s.isGroup then return (← allAccept o ss n) && accepted else return false

def Complex.accepts (o : Origin) : Complex → Node → StateM Memory Bool
  | .never, _ => return false
  | .compound parts, n => allAccept o parts n
  | .combined left c parts, n => do
    if ← allAccept o parts n then (o.before lib n c).anyM fun m => left.accepts o m
    else return false

def anyAccepts (o : Origin) : List Complex → Node → StateM Memory Bool
  | [], _ => return false
  | c :: cs, n => do
    if ← c.accepts o n then return true else anyAccepts o cs n

def Relative.isReached (o : Origin) : Relative → Node → StateM Memory Bool
  | .last mark c parts, n => reaches lib o mark c n fun m => allAccept o parts m
  | .step mark c parts rest, n => reaches lib o mark c n fun m => do
    if ← allAccept o parts m then rest.isReached o m else return false

def anyReached (o : Origin) : List Relative → Node → StateM Memory Bool
  | [], _ => return false
  | r :: rs, n => do
    if ← r.isReached o n then return true else anyReached o rs n

end

def scopeOf (n : Node) : Option Node :=
  if n.isRoot then (lib.childElements n).head? else some n

def accepted (o : Origin) (s : Selector) : List Node → StateM Memory (List Node) :=
  keepM (anyAccepts lib o s)

def select (s : Selector) (n : Node) : List Node :=
  let o : Origin := ⟨scopeOf lib n, prefixesAt lib n, false⟩
  ((accepted lib o s (lib.descendantElements n)).run .empty).1

def matchesNode (s : Selector) (n : Node) : Bool :=
  let o : Origin := ⟨scopeOf lib n, [], false⟩
  lib.isElement n && ((anyAccepts lib o s n).run .empty).1

end MarkupQuery.Css
