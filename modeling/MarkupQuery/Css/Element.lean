import MarkupQuery.Css.Selector
import MarkupQuery.Markup.Namespace
import MarkupQuery.Nodes.Node
import MarkupQuery.Text.Case
import MarkupQuery.Text.Letter

namespace MarkupQuery.Css

open Markup Text

structure Comparison where
  ignoresCase : Bool
  -- Whether only what begins in the first line of the value is found.
  inFirstLine : Bool

namespace AttributeTest

-- A line feed at the very end of an attribute's value is not compared.
def isEnd (rest : List Char) : Bool := rest == [] || rest == ['\n']

def startsWith (value content : List Char) : Bool := value.isPrefixOf content

def endsAt (value content : List Char) : Bool :=
  startsWith value content && isEnd (content.drop value.length)

def holdsFrom (inFirstLine : Bool) (check : List Char → Bool) : List Char → Bool
  | [] => check []
  | c :: cs =>
    check (c :: cs) || (!(inFirstLine && c == '\n') && holdsFrom inFirstLine check cs)

def firstLine (content : List Char) : List Char := content.takeWhile (· != '\n')

def isOneLine (content : List Char) : Bool := isEnd (content.drop (firstLine content).length)

def relates (inFirstLine : Bool) (relation : AttributeRelation) (value content : List Char) :
    Bool :=
  match relation with
  | .present => true
  | .equal => endsAt value content
  | .word =>
    !value.isEmpty && !value.any isGap &&
      (wordsBy isGap (if inFirstLine then firstLine content else content)).contains value
  | .dash =>
    endsAt value content || startsWith (value ++ ['-']) content &&
      (!inFirstLine || isOneLine (content.drop (value.length + 1)))
  | .start => !value.isEmpty && startsWith value content
  | .finish => !value.isEmpty && holdsFrom inFirstLine (endsAt value) content
  | .part => !value.isEmpty && holdsFrom inFirstLine (startsWith value) content

-- Without a flag the value of an attribute `type` is compared in its first line, and in HTML
-- without regard to case.
def comparison (dialect : Dialect) (test : AttributeTest) : Comparison :=
  match test.ignoreCase with
  | some ignoresCase => ⟨ignoresCase, false⟩
  | none => if lowered test.name == "type" then ⟨dialect == .html, true⟩ else ⟨false, false⟩

def accepts (dialect : Dialect) (test : AttributeTest) (content : String) : Bool :=
  let how := test.comparison dialect
  let read (s : String) := if how.ignoresCase then s.toList.map foldCase else s.toList
  relates how.inFirstLine test.relation (read test.value) (read content)

end AttributeTest

def sameName (dialect : Dialect) (a b : String) : Bool :=
  match dialect with
  | .html => lowered a == lowered b
  | .xml => a == b

abbrev Prefixes := List (String × String)

def htmlSpace : String := "http://www.w3.org/1999/xhtml"

variable (lib : Library)

def isHtmlRoot (n : Node) : Bool := lib.space? n == some htmlSpace

def isHtml (d : Nat) : Bool :=
  lib.dialect d == .html || (lib.childElements (.root d)).head?.any (isHtmlRoot lib)

-- All names of an HTML document are in the namespace of HTML.
def spaceOf (n : Node) : String :=
  match lib.dialect n.document with
  | .html => htmlSpace
  | .xml => (lib.space? n).getD ""

def isHtmlElement (n : Node) : Bool := spaceOf lib n == htmlSpace

def isNamed (n : Node) (names : List String) : Bool :=
  match lib.name? n with
  | some m => names.any fun name => sameName (lib.dialect n.document) name m
  | none => false

def inSpace (prefixes : Prefixes) (n : Node) : Prefix → Bool
  | .any => true
  | .empty => (spaceOf lib n).isEmpty
  | .named label => prefixes.lookup label == some (spaceOf lib n)

def declared (n : Node) : Prefixes :=
  match lib.tree? n with
  | some t => (Xml.scopeOf t.attributes).filter fun entry => !entry.1.isEmpty
  | none => []

-- A document knows the prefixes that are declared anywhere in it, each as it is first declared; an
-- element knows those that are declared at it and above it.
def prefixesAt (n : Node) : Prefixes :=
  match lib.dialect n.document with
  | .html => []
  | .xml =>
    if n.isRoot then Xml.outerScope ++ (lib.descendantElements n).flatMap (declared lib)
    else (n :: n.ancestors).flatMap (declared lib) ++ Xml.outerScope

def attributeContent? (prefixes : Prefixes) (n : Node) (space : Prefix) (name : String) :
    Option String :=
  let dialect := lib.dialect n.document
  let found (test : String × AttributeValue → Bool) : Option String :=
    (((lib.tree? n).map Tree.attributes).getD []).find? test |>.map (·.2.content)
  match dialect, space with
  | .xml, .named label =>
    match prefixes.lookup label with
    | some uri => found fun a => a.2.space? == some uri && (Xml.splitName a.1).2 == name
    | none => none
  | _, _ => found fun a => sameName dialect name a.1

def attributeOf? (n : Node) (name : String) : Option String :=
  attributeContent? lib [] n .any name

def hasAttribute (n : Node) (name : String) : Bool := (attributeOf? lib n name).isSome

def attributeIs (n : Node) (name value : String) : Bool :=
  match attributeOf? lib n name with
  | some content =>
    (⟨.any, name, .equal, value, none⟩ : AttributeTest).accepts (lib.dialect n.document) content
  | none => false

def classes (n : Node) : List String :=
  match (lib.tree? n).bind (·.attribute? "class") with
  | some (.words ws) => ws
  | some v => gapWords v.content
  | none => []

def idOf (n : Node) : String :=
  match (lib.tree? n).bind (·.attribute? "id") with
  | some v => v.content
  | none => ""

def isFrameTree (dialect : Dialect) : Tree → Bool
  | .element name _ _ => sameName dialect "iframe" name.text &&
      (dialect == .html || name.space == some htmlSpace)
  | _ => false

def isFrame (n : Node) : Bool := (lib.tree? n).any (isFrameTree (lib.dialect n.document))

def inFrame (n : Node) : List Node := n.ancestors.takeWhile fun a => !isFrame lib a

def isAside (n : Node) : Bool :=
  match lib.tree? n with
  | some (.element ..) => false
  | some (.text s) => isBlankText s
  | _ => true

def isTopmost (n : Node) : Bool :=
  (lib.childElements (.root n.document)).head? == some n ||
    isHtml lib n.document && n.parent?.any (isFrame lib)

def isDocumentElement (n : Node) : Bool :=
  isTopmost lib n && (lib.preceding n).all (isAside lib) && (lib.following n).all (isAside lib)

def isEmptyElement (n : Node) : Bool :=
  isHtml lib n.document && isFrame lib n || (lib.childNodes n).all fun child =>
    match lib.tree? child with
    | some (.element ..) => false
    | some (.text s) => s.toList.all isGap
    | _ => true

def isNth (step offset : Int) (place : Nat) : Bool :=
  let d := (place : Int) - offset
  if step = 0 then d == 0 else d % step == 0 && 0 ≤ d / step

def beside (n : Node) (fromEnd : Bool) : List Node :=
  if fromEnd then lib.followingElements n else lib.precedingElements n

def isSameType (n m : Node) : Bool :=
  (lib.name? n).any (fun name => isNamed lib m [name]) && spaceOf lib n == spaceOf lib m

def place (n : Node) (fromEnd ofType : Bool) : Nat :=
  ((beside lib n fromEnd).filter fun m => !ofType || isSameType lib n m).length + 1

mutual

def textWithin (closed : Tree → Bool) : Tree → String
  | .text s => s
  | .element name attributes children =>
    if closed (.element name attributes children) then "" else textWithinAll closed children
  | _ => ""

def textWithinAll (closed : Tree → Bool) : List Tree → String
  | [] => ""
  | t :: ts => textWithin closed t ++ textWithinAll closed ts

end

def ownTexts : List Tree → List String
  | [] => []
  | .text s :: ts => s :: ownTexts ts
  | _ :: ts => ownTexts ts

def containsText (own : Bool) (texts : List String) (n : Node) : Bool :=
  let dialect := lib.dialect n.document
  let closed (t : Tree) : Bool := isHtml lib n.document && isFrameTree dialect t
  match lib.tree? n with
  | none => false
  | some t =>
    let contents :=
      if !own then [textWithin closed t] else if closed t then [] else ownTexts t.children
    texts.any fun s => contents.any fun content =>
      AttributeTest.holdsFrom false (AttributeTest.startsWith s.toList) content.toList

end MarkupQuery.Css
