import MarkupQuery.Markup.Assembly

/-! XML documents and the namespaces of their names. The name of an element is kept without its
prefix; the name of an attribute has the prefix that its namespace was last given, and none if it
has no namespace. -/

namespace MarkupQuery.Markup.Xml

open Text

abbrev Scope := List (String × String)

def outerScope : Scope := [("xml", "http://www.w3.org/XML/1998/namespace")]

def splitName (name : String) : String × String :=
  match splitAtFirst? [':'] name.toList with
  | some (before, rest) => (String.ofList before, String.ofList rest)
  | none => ("", name)

def declared? (name : String) : Option String :=
  if name == "xmlns" then some ""
  else
    match splitName name with
    | ("xmlns", declared) => some declared
    | _ => none

def scopeOf (attributes : List (String × AttributeValue)) : Scope :=
  attributes.filterMap fun a => (declared? a.1).map fun declared => (declared, a.2.content)

def namespace? (scopes : List Scope) (label : String) : Option String :=
  scopes.findSome? fun scope => scope.lookup label

def label? (scopes : List Scope) (uri : String) : Option String :=
  scopes.findSome? fun scope => (scope.reverse.find? fun entry => entry.2 == uri).map (·.1)

def joined (label name : String) : String := if label.isEmpty then name else label ++ ":" ++ name

def elementName (scopes : List Scope) (name : String) : Name :=
  let (label, name) := splitName name
  ⟨name, (namespace? scopes label).filter fun uri => !uri.isEmpty⟩

def qualify (scopes : List Scope) : String × AttributeValue → String × AttributeValue
  | (name, value) =>
    match splitName name with
    | ("", name) => (name, value)
    | (label, name) =>
      match namespace? scopes label with
      | some uri => (joined ((label? scopes uri).getD "") name, .qualified uri value.content)
      | none => (name, value)

def renamed (scopes : List Scope) (attributes : List (String × AttributeValue)) :
    List (String × AttributeValue) :=
  let isDeclaration := fun a : String × AttributeValue => (declared? a.1).isSome
  (attributes.filter fun a => !isDeclaration a).map (qualify scopes) ++
    attributes.filter isDeclaration

mutual

def resolve (scopes : List Scope) : Tree → Tree
  | .element name attributes children =>
    let scopes := scopeOf attributes :: scopes
    .element (elementName scopes name) (renamed scopes attributes) (resolveAll scopes children)
  | t => t

def resolveAll (scopes : List Scope) : List Tree → List Tree
  | [] => []
  | t :: ts => resolve scopes t :: resolveAll scopes ts

end

def take (b : Builder) : Token → Builder
  | .text s | .section s => b.text s
  | .comment s => b.add (.comment s)
  | .doctype s => b.add (.doctype s)
  | .instruction s => b.add (.instruction s)
  | .opening name attributes isClosed =>
    let opened := b.enter name attributes
    if isClosed then opened.leave else opened
  | .closing name => if b.isOpen name then b.leaveNamed name else b

def isText : Tree → Bool
  | .text _ => true
  | _ => false

def outermost (ts : List Tree) : List Tree :=
  let ts := ts.filter fun t => !isText t
  let before := ts.takeWhile fun t => !t.isElement
  match ts.drop before.length with
  | [] => before
  | t :: after => before ++ t :: after.takeWhile fun t => !t.isElement

def documentTrees (ts : List Token) : List Tree :=
  resolveAll [outerScope] (outermost (ts.foldl take .start).finish)

end MarkupQuery.Markup.Xml
