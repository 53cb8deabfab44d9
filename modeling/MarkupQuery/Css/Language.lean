import MarkupQuery.Css.Element

namespace MarkupQuery.Css

open Markup Text

def subtags (s : String) : List String :=
  (pieces (· == '-') (lowered s).toList).map String.ofList

-- The parts of a language range. Stars after the first part stand for what is left out anyway, but
-- a range that ends in one matches nothing.
def rangeParts (s : String) : List String :=
  match subtags s with
  | [] => []
  | first :: rest =>
    first :: rest.filter (· != "*") ++ if rest.getLast? == some "*" then [""] else []

def findsParts : List String → List String → Bool
  | [], _ => true
  | _ :: _, [] => false
  | r :: rs, t :: ts =>
    if r.isEmpty then false
    else if r == t then findsParts rs ts
    else if t.length == 1 then false
    else findsParts (r :: rs) ts

def inRange (range language : String) : Bool :=
  match rangeParts range, subtags language with
  | [""], [""] => true
  | r :: rs, t :: ts =>
    (if r == "*" then !(ts.isEmpty && t.isEmpty) else r == t) && findsParts rs ts
  | _, _ => false

variable (lib : Library)

def xmlSpace : String := "http://www.w3.org/XML/1998/namespace"

def ownLanguage? (n : Node) : Option String :=
  let attributes := ((lib.tree? n).map Tree.attributes).getD []
  let dialect := lib.dialect n.document
  let isLanguage (a : String × AttributeValue) : Bool :=
    if dialect == .html || lib.space? n == some htmlSpace then sameName dialect "lang" a.1
    else a.2.space? == some xmlSpace && (Xml.splitName a.1).2 == "lang"
  (attributes.find? isLanguage).map (·.2.content)

def outerNodes (n : Node) : List Node :=
  if isHtml lib n.document then inFrame lib n else n.ancestors

-- The nearest language that is given at an element or above it, where an empty one counts only if
-- there is no other.
def givenLanguage? (n : Node) : Option String :=
  let found := (n :: outerNodes lib n).filterMap (ownLanguage? lib)
  (found.find? fun l => !l.isEmpty).or found.head?

def childNamed? (n : Node) (name : String) : Option Node :=
  (lib.childElements n).find? fun m => isNamed lib m [name] && isHtmlElement lib m

def headOf? (top : Node) : Option Node :=
  if lib.dialect top.document == .html && !isFrame lib top then
    (childNamed? lib top "html").bind fun html => childNamed? lib html "head"
  else none

def headLanguage? (head : Node) : Option String :=
  (lib.childElements head).findSome? fun m =>
    if isNamed lib m ["meta"] &&
        (attributeOf? lib m "http-equiv").any fun v => lowered v == "content-language" then
      (attributeOf? lib m "content").filter fun v => !v.isEmpty
    else none

def isSkipped (dialect : Dialect) (name : Name) (attributes : List (String × AttributeValue)) :
    Bool :=
  let direction? := (attributes.find? fun a => sameName dialect "dir" a.1).map (·.2.content)
  direction?.any (fun v => ["ltr", "rtl", "auto"].contains (lowered v)) ||
    ["bdi", "script", "style", "textarea", "iframe"].any (fun s => sameName dialect s name.text) ||
    !(dialect == .html || name.space == some htmlSpace)

def firstDirection? (s : String) : Option Direction := s.toList.findSome? Text.direction?

mutual

def treeDirection? (dialect : Dialect) : Tree → Option Direction
  | .text s => firstDirection? s
  | .element name attributes children =>
    if isSkipped dialect name attributes then none else textDirection? dialect children
  | _ => none

def textDirection? (dialect : Dialect) : List Tree → Option Direction
  | [] => none
  | t :: ts => (treeDirection? dialect t).or (textDirection? dialect ts)

end

def childTrees (n : Node) : List Tree := ((lib.tree? n).map Tree.children).getD []

def writtenText? (n : Node) : Option String :=
  if isNamed lib n ["textarea"] then some ("".intercalate (ownTexts (childTrees lib n)))
  else if isInput n then some ((attributeOf? lib n "value").getD "")
  else none
where
  isInput (n : Node) : Bool := isNamed lib n ["input"] &&
    ["text", "search", "tel", "url", "email"].contains
      (lowered ((attributeOf? lib n "type").getD ""))

def isTelephone (n : Node) : Bool :=
  isNamed lib n ["input"] && (attributeOf? lib n "type").any fun v => lowered v == "tel"

def ownDirection? (n : Node) : Option Direction :=
  let isTop := isTopmost lib n
  let orTop (d : Option Direction) : Option Direction :=
    d.or (if isTop then some .leftToRight else none)
  let auto : Option Direction :=
    match writtenText? lib n with
    | some s =>
      if s.isEmpty then orTop none else some ((firstDirection? s).getD .leftToRight)
    | none => orTop (textDirection? (lib.dialect n.document) (childTrees lib n))
  match ((attributeOf? lib n "dir").map lowered).getD "" with
  | "ltr" => some .leftToRight
  | "rtl" => some .rightToLeft
  | "auto" => auto
  | _ =>
    if isTop || isTelephone lib n then some .leftToRight
    else if isNamed lib n ["bdi"] then auto
    else none

def directionOf? : List Node → Option Direction
  | [] => none
  | n :: above =>
    if isHtmlElement lib n then (ownDirection? lib n).or (directionOf? above) else none

def hasDirection (n : Node) (d : Direction) : Bool :=
  directionOf? lib (n :: inFrame lib n) == some d

end MarkupQuery.Css
